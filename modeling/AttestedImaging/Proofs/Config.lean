import AttestedImaging.Config
import AttestedImaging.Proofs.Text.Decimal
import AttestedImaging.Proofs.Text.Trim
import Mathlib.Algebra.Group.Nat.Defs

/-!
# Reading a configuration

Which texts each setting takes, what the configuration is when all of them are taken, and which one is
blamed when some are not. What is written is read back.
-/

namespace AttestedImaging.Config

open Text (isBlank Trimmed trim_eq_iff)

/-! ## The texts of a setting -/

/-- What a setting can be. -/
inductive Value
  | number (n : Nat)
  | policy (policy : KeyPolicy)
  | boolean (flag : Bool)
deriving DecidableEq

def value (c : Config) : Setting → Value
  | .maxImageBytes => .number c.maxImageBytes
  | .maxSessions => .number c.maxSessions
  | .keyPolicy => .policy c.keyPolicy
  | .persist => .boolean c.persist

theorem value_injective : Function.Injective value := by
  intro c c' h
  have hbytes := congrFun h .maxImageBytes
  have hsessions := congrFun h .maxSessions
  have hpolicy := congrFun h .keyPolicy
  have hpersist := congrFun h .persist
  cases c
  cases c'
  simp_all [value]

/-- What the texts of a setting say, without the blanks around them. -/
def Denotes (core : List Char) : Setting → Value → Prop
  | .maxImageBytes, .number n => Text.Decimal.Denotes core n ∧ n < 2 ^ 64
  | .maxSessions, .number n => Text.Decimal.Denotes core n ∧ n < 2 ^ 64
  | .keyPolicy, .policy .perInvocation => core = "per-invocation".toList
  | .keyPolicy, .policy .perSession => core = "per-session".toList
  | .persist, .boolean true => core = "true".toList
  | .persist, .boolean false => core = "false".toList
  | _, _ => False

/-- What a setting is: what its trimmed text says, or the default if it has none. -/
def Assigns (lookup : String → Option String) (s : Setting) (v : Value) : Prop :=
  match lookup s.variable with
  | none => v = ({} : Config).value s
  | some raw => ∃ core, Trimmed raw.toList core ∧ Denotes core s v

/-! ## Reading one setting -/

variable {lookup : String → Option String} {s : Setting} {v : Value} {core : List Char}

def Setting.read (text : String) : Setting → Except Reason Value
  | .maxImageBytes => (readNumber text).map .number
  | .maxSessions => (readNumber text).map .number
  | .keyPolicy => (readPolicy text).map .policy
  | .persist => (readBool text).map .boolean

theorem readNumber_ok_iff {n : Nat} : readNumber (.ofList core) = .ok n ↔
    Text.Decimal.Denotes core n ∧ n < 2 ^ 64 := by
  have hlimit : Text.Decimal.wordLimit = 2 ^ 64 := rfl
  rw [readNumber, Text.Decimal.readWord, String.toList_ofList, ← hlimit,
    ← Text.Decimal.read_ok_iff (by decide)]
  cases Text.Decimal.read Text.Decimal.wordLimit core <;> simp

theorem ofTag?_eq_some_iff {text : String} {policy : KeyPolicy} :
    KeyPolicy.ofTag? text = some policy ↔ text = policy.tag := by
  constructor
  · intro h
    have htag : policy.tag = text := by simpa using List.find?_some h
    exact htag.symm
  · rintro rfl
    cases policy <;> rfl

theorem readPolicy_ok_iff {policy : KeyPolicy} :
    readPolicy (.ofList core) = .ok policy ↔ core = policy.tag.toList := by
  rw [← String.ofList_inj, String.ofList_toList, ← ofTag?_eq_some_iff, readPolicy]
  cases KeyPolicy.ofTag? (.ofList core) <;> simp

theorem readBool_ok_iff {flag : Bool} : readBool (.ofList core) = .ok flag ↔
    core = (if flag then "true" else "false").toList := by
  rw [← String.ofList_inj, String.ofList_toList, readBool]
  cases flag <;> grind

theorem map_eq_ok_iff {ε α β : Type} {f : α → β} {x : Except ε α} {b : β} :
    x.map f = .ok b ↔ ∃ a, x = .ok a ∧ f a = b := by
  cases x <;> simp [Except.map]

theorem Setting.read_ok_iff : s.read (.ofList core) = .ok v ↔ Denotes core s v := by
  cases s with
  | maxImageBytes => cases v <;> simp [Setting.read, map_eq_ok_iff, readNumber_ok_iff, Denotes]
  | maxSessions => cases v <;> simp [Setting.read, map_eq_ok_iff, readNumber_ok_iff, Denotes]
  | keyPolicy =>
    rcases v with n | (_ | _) | flag <;>
      simp [Setting.read, map_eq_ok_iff, readPolicy_ok_iff, Denotes, KeyPolicy.tag]
  | persist =>
    rcases v with n | policy | (_ | _) <;>
      simp [Setting.read, map_eq_ok_iff, readBool_ok_iff, Denotes]

/-! ## Reading all settings -/

/-- Reads a setting for itself, with its default. -/
def readValue (lookup : String → Option String) (s : Setting) : Except Fault Value :=
  readSetting lookup s s.read (({} : Config).value s)

theorem readValue_ok_iff : readValue lookup s = .ok v ↔ Assigns lookup s v := by
  unfold readValue readSetting Assigns
  cases lookup s.variable with
  | none => simp [eq_comm]
  | some raw =>
    simp only [← trim_eq_iff, exists_eq_left', ← Setting.read_ok_iff]
    cases s.read (.ofList (Text.trim raw.toList)) <;> simp

theorem Assigns.unique {v' : Value} (h : Assigns lookup s v) (h' : Assigns lookup s v') : v = v' :=
  Except.ok.inj ((readValue_ok_iff.mpr h).symm.trans (readValue_ok_iff.mpr h'))

theorem readValue_error {f : Fault} (h : readValue lookup s = .error f) :
    f.setting = s ∧ lookup s.variable = some f.text := by
  unfold readValue readSetting at h
  split at h
  · cases h
  · rename_i raw hraw
    split at h
    · cases h
    · cases h
      exact ⟨rfl, hraw⟩

/-- Reading a setting by its own reader comes to the same as `readValue`. -/
theorem readSetting_cases (lookup : String → Option String) (s : Setting) {α : Type} {wrap : α → Value}
    (read : String → Except Reason α) {default : α} (hread : s.read = fun text => (read text).map wrap)
    (hdefault : ({} : Config).value s = wrap default) :
    (∃ f, readSetting lookup s read default = .error f ∧ readValue lookup s = .error f) ∨
    (∃ a, readSetting lookup s read default = .ok a ∧ readValue lookup s = .ok (wrap a)) := by
  rw [readValue, hread, hdefault]
  unfold readSetting
  cases lookup s.variable with
  | none => exact .inr ⟨default, rfl, rfl⟩
  | some raw =>
    simp only
    cases read (.ofList (Text.trim raw.toList)) with
    | error reason => exact .inl ⟨⟨s, raw, reason⟩, rfl, rfl⟩
    | ok a => exact .inr ⟨a, rfl, rfl⟩

def fault? (lookup : String → Option String) (s : Setting) : Option Fault :=
  match readValue lookup s with
  | .ok _ => none
  | .error f => some f

/-- The settings in the order in which they are read. -/
def Setting.order : List Setting := [.maxImageBytes, .maxSessions, .keyPolicy, .persist]

/-- Either every setting is read, or the first one that is not is blamed. -/
theorem read_cases (lookup : String → Option String) :
    (∃ c, read lookup = .ok c ∧ ∀ s, readValue lookup s = .ok (c.value s)) ∨
    (∃ f, read lookup = .error f ∧ Setting.order.findSome? (fault? lookup) = some f) := by
  unfold read
  simp only [Setting.order, List.findSome?_cons, fault?, bind, Except.bind, pure, Except.pure]
  -- A setting that is not read ends both searches, and one that is read leaves the next one to do.
  obtain ⟨f, h, h'⟩ | ⟨bytes, hbytes, hbytes'⟩ :=
    readSetting_cases lookup .maxImageBytes readNumber rfl rfl
  · exact .inr ⟨f, by simp only [h], by simp only [h']⟩
  obtain ⟨f, h, h'⟩ | ⟨sessions, hsessions, hsessions'⟩ :=
    readSetting_cases lookup .maxSessions readNumber rfl rfl
  · exact .inr ⟨f, by simp only [hbytes, h], by simp only [hbytes', h']⟩
  obtain ⟨f, h, h'⟩ | ⟨policy, hpolicy, hpolicy'⟩ :=
    readSetting_cases lookup .keyPolicy readPolicy rfl rfl
  · exact .inr ⟨f, by simp only [hbytes, hsessions, h], by simp only [hbytes', hsessions', h']⟩
  obtain ⟨f, h, h'⟩ | ⟨flag, hpersist, hpersist'⟩ :=
    readSetting_cases lookup .persist readBool rfl rfl
  · exact .inr ⟨f, by simp only [hbytes, hsessions, hpolicy, h],
      by simp only [hbytes', hsessions', hpolicy', h']⟩
  · refine .inl ⟨⟨bytes, sessions, policy, flag⟩, by simp only [hbytes, hsessions, hpolicy, hpersist],
      fun s => ?_⟩
    cases s
    · exact hbytes'
    · exact hsessions'
    · exact hpolicy'
    · exact hpersist'

theorem fault?_eq_some_iff {f : Fault} : fault? lookup s = some f ↔ readValue lookup s = .error f := by
  unfold fault?
  cases readValue lookup s <;> simp

theorem fault?_setting {f : Fault} (h : fault? lookup s = some f) : f.setting = s :=
  (readValue_error (fault?_eq_some_iff.mp h)).1

theorem fault?_eq_none_iff : fault? lookup s = none ↔ ∃ v, Assigns lookup s v := by
  simp only [← readValue_ok_iff, fault?]
  cases readValue lookup s <;> simp

theorem read_ok_iff {c : Config} : read lookup = .ok c ↔ ∀ s, Assigns lookup s (c.value s) := by
  simp only [← readValue_ok_iff]
  rcases read_cases lookup with ⟨c', hread, hall⟩ | ⟨f, hread, hfault⟩
  · rw [hread]
    simp only [hall, Except.ok.injEq]
    rw [← funext_iff, value_injective.eq_iff]
  · obtain ⟨s, -, hs⟩ := List.exists_of_findSome?_eq_some hfault
    have hnot : ¬ ∀ s, readValue lookup s = .ok (c.value s) := by
      intro hall
      rw [fault?_eq_some_iff, hall s] at hs
      cases hs
    simp [hread, hnot]

theorem read_ok_exists_iff : (∃ c, read lookup = .ok c) ↔ ∀ s, ∃ v, Assigns lookup s v := by
  constructor
  · rintro ⟨c, hread⟩ s
    exact ⟨c.value s, read_ok_iff.mp hread s⟩
  · intro hall
    rcases read_cases lookup with ⟨c, hread, -⟩ | ⟨f, -, hfault⟩
    · exact ⟨c, hread⟩
    · obtain ⟨s, -, hs⟩ := List.exists_of_findSome?_eq_some hfault
      rw [fault?_eq_none_iff.mpr (hall s)] at hs
      cases hs

theorem read_error_iff {f : Fault} :
    read lookup = .error f ↔ Setting.order.findSome? (fault? lookup) = some f := by
  rcases read_cases lookup with ⟨c, hread, hall⟩ | ⟨f', hread, hfault⟩
  · have hnone : Setting.order.findSome? (fault? lookup) = none := by
      rw [List.findSome?_eq_none_iff]
      exact fun s _ => fault?_eq_none_iff.mpr ⟨c.value s, readValue_ok_iff.mp (hall s)⟩
    simp [hread, hnone]
  · simp [hread, hfault]

theorem read_blames_iff {raw : String} : (∃ reason, read lookup = .error ⟨s, raw, reason⟩) ↔
    lookup s.variable = some raw ∧ (¬ ∃ v, Assigns lookup s v) ∧
      ∃ earlier later, Setting.order = earlier ++ s :: later ∧
        ∀ e ∈ earlier, ∃ v, Assigns lookup e v := by
  simp only [read_error_iff, List.findSome?_eq_some_iff, ← fault?_eq_none_iff]
  constructor
  · rintro ⟨reason, earlier, s', later, horder, hfault, hearlier⟩
    obtain ⟨rfl, hraw⟩ := readValue_error (fault?_eq_some_iff.mp hfault)
    exact ⟨hraw, by simp [hfault], earlier, later, horder, hearlier⟩
  · rintro ⟨hraw, hnot, earlier, later, horder, hearlier⟩
    obtain ⟨⟨s', text, reason⟩, hfault⟩ := Option.ne_none_iff_exists'.mp hnot
    obtain ⟨rfl, htext⟩ := readValue_error (fault?_eq_some_iff.mp hfault)
    obtain rfl := Option.some.inj (hraw.symm.trans htext)
    exact ⟨reason, earlier, s', later, horder, hfault, hearlier⟩

/-! ## Writing and reading back -/

theorem denotes_text {c : Config} (hbytes : c.maxImageBytes < 2 ^ 64)
    (hsessions : c.maxSessions < 2 ^ 64) (s : Setting) : Denotes (c.text s).toList s (c.value s) := by
  obtain ⟨bytes, sessions, policy, flag⟩ := c
  cases s with
  | maxImageBytes => exact ⟨Text.Decimal.denotes_toString bytes, hbytes⟩
  | maxSessions => exact ⟨Text.Decimal.denotes_toString sessions, hsessions⟩
  | keyPolicy => cases policy <;> rfl
  | persist => cases flag <;> rfl

theorem isBlank_of_decimal {n : Nat} (h : Text.Decimal.Denotes core n) :
    ∀ ch ∈ core, isBlank ch = false := by
  intro ch hch
  rcases h.mem hch with rfl | hdigit
  · rfl
  · obtain ⟨hlow, hhigh⟩ := Char.isDigit_iff_toNat.mp hdigit
    have hrange : ∀ n < 58, 48 ≤ n →
        (Text.blankRanges.any fun range => range.1 ≤ n && n ≤ range.2) = false := by
      decide
    exact hrange ch.toNat (Nat.lt_succ_of_le hhigh) hlow

theorem isBlank_of_denotes (h : Denotes core s v) : ∀ ch ∈ core, isBlank ch = false := by
  unfold Denotes at h
  split at h
  case h_1 | h_2 => exact isBlank_of_decimal h.1
  case h_7 => exact h.elim
  all_goals
    subst h
    simp [isBlank, Text.blankRanges]

theorem read_text {c : Config} (hbytes : c.maxImageBytes < 2 ^ 64) (hsessions : c.maxSessions < 2 ^ 64)
    {before after : Setting → List Char} (hblank : ∀ s, ∀ ch ∈ before s ++ after s, isBlank ch = true)
    (hlookup : ∀ s, lookup s.variable = some (.ofList (before s ++ (c.text s).toList ++ after s))) :
    read lookup = .ok c := by
  refine read_ok_iff.mpr fun s => ?_
  have htext := denotes_text hbytes hsessions s
  have htrimmed : Trimmed (before s ++ (c.text s).toList ++ after s) (c.text s).toList :=
    .of_append (fun ch hch => hblank s ch (List.mem_append_left _ hch))
      (fun ch hch => hblank s ch (List.mem_append_right _ hch)) (isBlank_of_denotes htext)
  rw [Assigns, hlookup s]
  exact ⟨_, by rwa [String.toList_ofList], htext⟩

/-- A configuration is read from four variables, of which the first with an unsuitable text is blamed, and
one that is written out is read back. -/
theorem read_settings (lookup : String → Option String) :
    (∀ lookup', (∀ s : Setting, lookup' s.variable = lookup s.variable) →
      read lookup' = read lookup) ∧
    ((∃ c, read lookup = .ok c) ↔ ∀ s, ∃ v, Assigns lookup s v) ∧
    (∀ c, read lookup = .ok c ↔ ∀ s, Assigns lookup s (c.value s)) ∧
    (∀ s raw, (∃ reason, read lookup = .error ⟨s, raw, reason⟩) ↔
      lookup s.variable = some raw ∧ (¬ ∃ v, Assigns lookup s v) ∧
        ∃ earlier later, Setting.order = earlier ++ s :: later ∧
          ∀ e ∈ earlier, ∃ v, Assigns lookup e v) ∧
    ∀ (c : Config) (before after : Setting → List Char), c.maxImageBytes < 2 ^ 64 →
      c.maxSessions < 2 ^ 64 → (∀ s, ∀ ch ∈ before s ++ after s, isBlank ch = true) →
      (∀ s, lookup s.variable = some (.ofList (before s ++ (c.text s).toList ++ after s))) →
      read lookup = .ok c := by
  refine ⟨fun lookup' h => ?_, read_ok_exists_iff, fun c => read_ok_iff, fun s raw => read_blames_iff,
    fun c before after hbytes hsessions => read_text hbytes hsessions⟩
  simp only [read, readSetting, h]

/-- The least and the greatest number, with a tab before and an ideographic space after each text. -/
theorem read_settings_blanks :
    let c : Config := ⟨0, 18446744073709551615, .perSession, true⟩
    let texts : List (String × String) := [("VTEE_MAX_IMAGE_BYTES", "\t0\u3000"),
      ("VTEE_MAX_SESSIONS", "\t18446744073709551615\u3000"),
      ("VTEE_KEY_POLICY", "\tper-session\u3000"), ("VTEE_PERSIST_ATTESTATIONS", "\ttrue\u3000")]
    read (fun key => List.lookup key texts) = .ok c ∧
      read (fun key => List.lookup key (("VTEE_COLOR", "red") :: texts)) = .ok c := by
  intro c texts
  have hblank : ∀ ch ∈ ['\t'] ++ ['\u3000'], isBlank ch = true := by
    simp [isBlank, Text.blankRanges]
  have hlookup : ∀ s : Setting, List.lookup s.variable texts =
      some (.ofList (['\t'] ++ (c.text s).toList ++ ['\u3000'])) := by
    intro s
    cases s <;> decide
  have hmore : ∀ s : Setting, List.lookup s.variable (("VTEE_COLOR", "red") :: texts) =
      List.lookup s.variable texts := by
    intro s
    cases s <;> rfl
  obtain ⟨hsame, -, -, -, hback⟩ := read_settings fun key => List.lookup key texts
  have hread : read (fun key => List.lookup key texts) = .ok c :=
    hback c (fun _ => ['\t']) (fun _ => ['\u3000']) (by decide) (by decide) (fun _ => hblank) hlookup
  exact ⟨hread, (hsame _ hmore).trans hread⟩

end AttestedImaging.Config
