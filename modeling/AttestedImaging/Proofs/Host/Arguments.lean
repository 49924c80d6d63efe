import AttestedImaging.Host.CommandLine
import AttestedImaging.Proofs.Config

/-!
# The command line over the environment

A setting that the command line gives is what it gives, and the others come from the environment. Variables
of settings that are given have to be in order all the same: a fault in one of them is the only way in which
it makes a difference.
-/

namespace AttestedImaging.Host.Arguments

open Config (Assigns Setting Value fault? fault?_setting readValue)

variable {a : Arguments} {lookup lookup' : String → Option String} {c : Config} {f : Config.Fault}

def value? (a : Arguments) : Setting → Option Value
  | .maxImageBytes => a.maxImageBytes.map .number
  | .maxSessions => none
  | .keyPolicy => a.keyPolicy.map .policy
  | .persist => if a.persist then some (.boolean true) else none

/-! ## The outcome -/

def override (a : Arguments) (c : Config) : Config :=
  { c with
    keyPolicy := a.keyPolicy.getD c.keyPolicy
    maxImageBytes := a.maxImageBytes.getD c.maxImageBytes
    persist := a.persist || c.persist }

theorem config_eq (a : Arguments) (lookup : String → Option String) :
    a.config lookup = (Config.read lookup).map a.override := by
  unfold config
  cases Config.read lookup <;> rfl

theorem value_override (a : Arguments) (c : Config) (s : Setting) :
    (a.override c).value s = (a.value? s).getD (c.value s) := by
  obtain ⟨image, output, json, keyPolicy, maxImageBytes, persist⟩ := a
  cases s with
  | maxImageBytes => cases maxImageBytes <;> rfl
  | maxSessions => rfl
  | keyPolicy => cases keyPolicy <;> rfl
  | persist => cases persist <;> rfl

theorem config_ok_iff : a.config lookup = .ok c ↔
    ∀ s, ∃ v, Assigns lookup s v ∧ c.value s = (a.value? s).getD v := by
  simp only [config_eq, Config.map_eq_ok_iff]
  constructor
  · rintro ⟨env, hread, rfl⟩ s
    exact ⟨env.value s, Config.read_ok_iff.mp hread s, value_override a env s⟩
  · intro h
    obtain ⟨env, hread⟩ := Config.read_ok_exists_iff.mpr fun s => (h s).imp fun _ hv => hv.1
    refine ⟨env, hread, Config.value_injective (funext fun s => ?_)⟩
    obtain ⟨v, hassigns, hvalue⟩ := h s
    rw [value_override, hvalue, Assigns.unique (Config.read_ok_iff.mp hread s) hassigns]

theorem config_error_iff : a.config lookup = .error f ↔ Config.read lookup = .error f := by
  rw [config_eq]
  cases Config.read lookup <;> simp [Except.map]

theorem config_given (h : a.config lookup = .ok c) :
    (∀ n, a.maxImageBytes = some n → c.maxImageBytes = n) ∧
      (∀ policy, a.keyPolicy = some policy → c.keyPolicy = policy) ∧
      (a.persist = true → c.persist = true) := by
  obtain ⟨env, -, rfl⟩ := Config.map_eq_ok_iff.mp ((config_eq a lookup).symm.trans h)
  refine ⟨?_, ?_, ?_⟩ <;> simp +contextual [override]

/-! ## Two environments -/

/-- They have the same texts for the settings that the command line does not give. -/
def Agree (a : Arguments) (lookup lookup' : String → Option String) : Prop :=
  ∀ s : Setting, a.value? s = none → lookup' s.variable = lookup s.variable

/-- The setting that is blamed is one that the command line gives. -/
def Spoiled (a : Arguments) (lookup : String → Option String) : Prop :=
  ∃ f, a.config lookup = .error f ∧ a.value? f.setting ≠ none

theorem readValue_agree (h : a.Agree lookup lookup') {s : Setting} (hs : a.value? s = none) :
    readValue lookup' s = readValue lookup s := by
  simp only [readValue, Config.readSetting, h s hs]

/-- As long as neither search finds a fault in a setting that is given, they go on in the same way. -/
theorem findSome?_agree (h : a.Agree lookup lookup') (settings : List Setting) :
    settings.findSome? (fault? lookup') = settings.findSome? (fault? lookup) ∨
      ∃ f, a.value? f.setting ≠ none ∧ (settings.findSome? (fault? lookup) = some f ∨
        settings.findSome? (fault? lookup') = some f) := by
  induction settings with
  | nil => exact .inl rfl
  | cons s rest ih =>
    simp only [List.findSome?_cons]
    by_cases hs : a.value? s = none
    · -- Both environments have the same text.
      have hsame : fault? lookup' s = fault? lookup s := by
        rw [fault?, fault?, readValue_agree h hs]
      rw [hsame]
      cases fault? lookup s with
      | none => exact ih
      | some f => exact .inl rfl
    · -- The setting is given, so the texts may differ.
      cases hfault : fault? lookup s with
      | some f =>
        obtain rfl := fault?_setting hfault
        exact .inr ⟨f, hs, .inl rfl⟩
      | none =>
        cases hfault' : fault? lookup' s with
        | some f =>
          obtain rfl := fault?_setting hfault'
          exact .inr ⟨f, hs, .inr rfl⟩
        | none => exact ih

theorem ok_unique (h : a.Agree lookup lookup') {c' : Config} (hok : a.config lookup = .ok c)
    (hok' : a.config lookup' = .ok c') : c' = c := by
  refine Config.value_injective (funext fun s => ?_)
  obtain ⟨v, hassigns, hvalue⟩ := config_ok_iff.mp hok s
  obtain ⟨v', hassigns', hvalue'⟩ := config_ok_iff.mp hok' s
  rw [hvalue, hvalue']
  cases hs : a.value? s with
  | some given => rfl
  | none =>
    rw [← Config.readValue_ok_iff, readValue_agree h hs, Config.readValue_ok_iff] at hassigns'
    exact hassigns'.unique hassigns

theorem config_agree (h : a.Agree lookup lookup') :
    a.config lookup' = a.config lookup ∨ a.Spoiled lookup ∨ a.Spoiled lookup' := by
  obtain hsame | ⟨f, hgiven, hfault | hfault⟩ := findSome?_agree h Setting.order
  · -- The two searches came to the same.
    have herror : ∀ f, a.config lookup' = .error f ↔ a.config lookup = .error f := by
      intro f
      rw [config_error_iff, config_error_iff, Config.read_error_iff, Config.read_error_iff, hsame]
    cases hconfig : a.config lookup with
    | error f => exact .inl ((herror f).mpr hconfig)
    | ok c =>
      cases hconfig' : a.config lookup' with
      | error f => cases hconfig.symm.trans ((herror f).mp hconfig')
      | ok c' => exact .inl (congrArg _ (ok_unique h hconfig hconfig'))
  · exact .inr (.inl ⟨f, config_error_iff.mpr (Config.read_error_iff.mpr hfault), hgiven⟩)
  · exact .inr (.inr ⟨f, config_error_iff.mpr (Config.read_error_iff.mpr hfault), hgiven⟩)

theorem spoiled_iff : a.Spoiled lookup ↔ ∃ s, a.value? s ≠ none ∧ (¬ ∃ v, Assigns lookup s v) ∧
    ∃ earlier later, Setting.order = earlier ++ s :: later ∧
      ∀ e ∈ earlier, ∃ v, Assigns lookup e v := by
  constructor
  · rintro ⟨⟨s, raw, reason⟩, herror, hgiven⟩
    have hblames := Config.read_blames_iff.mp ⟨reason, config_error_iff.mp herror⟩
    exact ⟨s, hgiven, hblames.2⟩
  · rintro ⟨s, hgiven, hnot, hearlier⟩
    cases hraw : lookup s.variable with
    | none => exact absurd ⟨_, by rw [Assigns, hraw]⟩ hnot
    | some raw =>
      obtain ⟨reason, herror⟩ := Config.read_blames_iff.mpr ⟨hraw, hnot, hearlier⟩
      exact ⟨⟨s, raw, reason⟩, config_error_iff.mpr herror, hgiven⟩

/-- Settings on the command line come before their variables. Such a variable makes a difference only if it
is the first that cannot be read. -/
theorem config_precedence (a : Arguments) (lookup : String → Option String) :
    (∀ c, a.config lookup = .ok c ↔ ∀ s, ∃ v, Assigns lookup s v ∧ c.value s = (a.value? s).getD v) ∧
    (∀ c, a.config lookup = .ok c → (∀ n, a.maxImageBytes = some n → c.maxImageBytes = n) ∧
      (∀ policy, a.keyPolicy = some policy → c.keyPolicy = policy) ∧
      (a.persist = true → c.persist = true)) ∧
    (∀ f, a.config lookup = .error f ↔ Config.read lookup = .error f) ∧
    (∀ lookup', (∀ s, a.value? s = none → lookup' s.variable = lookup s.variable) →
      a.config lookup' = a.config lookup ∨ a.Spoiled lookup ∨ a.Spoiled lookup') ∧
    (a.Spoiled lookup ↔ ∃ s, a.value? s ≠ none ∧ (¬ ∃ v, Assigns lookup s v) ∧
      ∃ earlier later, Setting.order = earlier ++ s :: later ∧
        ∀ e ∈ earlier, ∃ v, Assigns lookup e v) :=
  ⟨fun _ => config_ok_iff, fun _ => config_given, fun _ => config_error_iff, fun _ => config_agree,
    spoiled_iff⟩

/-- All three settings are given, and in one of the environments all three have other values. -/
theorem config_precedence_given :
    let a : Arguments :=
      { image := "in.bmp", keyPolicy := some .perSession, maxImageBytes := some 12, persist := true }
    let lookup := fun key => List.lookup key [("VTEE_MAX_SESSIONS", "3")]
    let lookup' := fun key => List.lookup key [("VTEE_MAX_SESSIONS", "3"), ("VTEE_MAX_IMAGE_BYTES", " 7"),
      ("VTEE_KEY_POLICY", "per-invocation"), ("VTEE_PERSIST_ATTESTATIONS", "false")]
    a.config lookup' = a.config lookup ∧ ∃ c, a.config lookup = .ok c ∧ c.maxImageBytes = 12 ∧
      c.keyPolicy = .perSession ∧ c.persist = true ∧ c.maxSessions = 3 := by
  intro a lookup lookup'
  have hread' : Config.read lookup' = .ok ⟨7, 3, .perInvocation, false⟩ := by decide +kernel
  have hok : a.config lookup = .ok ⟨12, 3, .perSession, true⟩ := by decide +kernel
  obtain ⟨-, hgiven, -, hagree, -⟩ := config_precedence a lookup
  obtain ⟨-, -, herror', -, -⟩ := config_precedence a lookup'
  have hsessions : ∀ s, a.value? s = none → lookup' s.variable = lookup s.variable := by
    rintro (_ | _) hs <;> first | rfl | cases hs
  have hsame : a.config lookup' = a.config lookup := by
    obtain hsame | ⟨f, hfault, -⟩ | ⟨f, hfault, -⟩ := hagree lookup' hsessions
    · exact hsame
    · cases hok.symm.trans hfault
    · cases hread'.symm.trans ((herror' f).mp hfault)
  obtain ⟨hbytes, hpolicy, hpersist⟩ := hgiven _ hok
  exact ⟨hsame, _, hok, hbytes 12 rfl, hpolicy .perSession rfl, hpersist rfl, rfl⟩

/-- A limit on the command line and a text that is no number in its variable. -/
theorem malformed_blamed :
    let a : Arguments := { image := "in.bmp", maxImageBytes := some 12 }
    let unset : String → Option String := fun _ => none
    let malformed := fun key => List.lookup key [("VTEE_MAX_IMAGE_BYTES", "abc")]
    CommandLine.parse ["in.bmp", "--max-image-bytes", "12"] = .ok a ∧
      (∀ s, a.value? s = none → malformed s.variable = unset s.variable) ∧
      a.config unset = .ok { maxImageBytes := 12 } ∧
      a.config malformed = .error ⟨.maxImageBytes, "abc", .number .invalidDigit⟩ := by
  intro a unset malformed
  have hparse : CommandLine.parse ["in.bmp", "--max-image-bytes", "12"] = .ok a := by rfl
  refine ⟨hparse, ?_, by decide +kernel, by decide +kernel⟩
  intro s hs
  cases s <;> first | rfl | cases hs

end AttestedImaging.Host.Arguments
