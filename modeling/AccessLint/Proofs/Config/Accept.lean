import AccessLint.Config
import AccessLint.Proofs.Json.Relaxed
import AccessLint.Text.Keyed

namespace AccessLint

/-!
# Accepted configurations

A text is accepted as a configuration just when the value in it gives rules, and then it is those
rules that are stored.

* `Config.Gives` — the rules that a value gives;
* `Config.Stores` — configurations that hold some rules, and nothing else;
* `Config.ofJson_eq_ok_iff` — the values that are accepted;
* `Config.ofText_eq_ok_iff` — the texts that are accepted;
* `Config.ofText_accepts` — the same with what is stored.
-/

open Json

namespace RuleOption

variable {v w : Json} {b : Bool}

theorem ofJson_eq_enabled_iff : ofJson v = .enabled b ↔ v = .bool b := by
  cases v <;> simp [ofJson]

theorem ofJson_eq_other_iff : ofJson v = .other w ↔ v = w ∧ ∀ b, w ≠ .bool b := by
  constructor
  · intro h
    cases v <;> cases h <;> simp
  · rintro ⟨rfl, hnot⟩
    cases v
    case bool b => exact absurd rfl (hnot b)
    all_goals rfl

end RuleOption

namespace Config

/-- The rules that a value gives, each with its own value: the member `rules` of an object, if that
    is an object itself; none if there is no such member. Other members do not count. The rules may
    also be the only item of an array, and an empty array gives none. -/
inductive Gives : Json → List (Text × Json) → Prop
  | absent {members : List (Text × Json)} : members.lookup ("rules" : Text) = none →
      Gives (.obj members) []
  | member {members rules : List (Text × Json)} :
      members.lookup ("rules" : Text) = some (.obj rules) → Gives (.obj members) rules
  | nothing : Gives (.arr []) []
  | item (rules : List (Text × Json)) : Gives (.arr [.obj rules]) rules

/-- Configurations that hold some rules and no others: a rule whose value is a boolean is turned on
    or off, and any other value is kept as it is. -/
structure Stores (c : Config) (rules : List (Text × Json)) : Prop where
  distinct : (c.rules.map Prod.fst).Nodup
  enabled : ∀ key b, c.get? key = some (.enabled b) ↔ (key, .bool b) ∈ rules
  other : ∀ key v, c.get? key = some (.other v) ↔ (key, v) ∈ rules ∧ ∀ b, v ≠ .bool b

variable {v : Json} {c : Config} {rules rules' : List (Text × Json)} {t : Text}

/-! ### The configuration of some rules -/

/-- The configuration of some rules. -/
def ofRules (rules : List (Text × Json)) : Config :=
  ⟨rules.map fun r => (r.1, RuleOption.ofJson r.2)⟩

/-- A key of `ofRules` has the option that its value describes, if the rules have the key. -/
theorem get?_ofRules (rules : List (Text × Json)) (key : Text) :
    (ofRules rules).get? key = (rules.lookup key).map RuleOption.ofJson :=
  Keyed.lookup_map RuleOption.ofJson key rules

/-- Rules that do not repeat a key are stored as they are by `ofRules`, so nothing is lost between a
    value and its configuration. -/
theorem stores_ofRules (h : (rules.map Prod.fst).Nodup) : (ofRules rules).Stores rules where
  distinct := by
    rw [ofRules, List.map_map]
    exact h
  enabled key b := by
    simp only [get?_ofRules, Option.map_eq_some_iff, Keyed.lookup_eq_some_iff h,
      RuleOption.ofJson_eq_enabled_iff, exists_eq_right]
  other key v := by
    simp only [get?_ofRules, Option.map_eq_some_iff, Keyed.lookup_eq_some_iff h,
      RuleOption.ofJson_eq_other_iff]
    constructor
    · rintro ⟨w, hmem, rfl, hnot⟩
      exact ⟨hmem, hnot⟩
    · rintro ⟨hmem, hnot⟩
      exact ⟨v, hmem, rfl, hnot⟩

/-! ### Values and texts -/

/-- **The values that are accepted** are those that give rules (`Gives`), and the configuration is
    that of the rules. -/
theorem ofJson_eq_ok_iff : ofJson v = .ok c ↔ ∃ rules, Gives v rules ∧ c = ofRules rules := by
  constructor
  · intro h
    cases v with
    | obj members =>
      rw [ofJson] at h
      split at h
      case h_1 hlookup =>
        cases h
        exact ⟨[], .absent hlookup, rfl⟩
      case h_2 v hlookup =>
        cases v <;> cases h
        exact ⟨_, .member hlookup, rfl⟩
    -- an array gives the value of the only field of a `Config`; none at all is the default
    | arr items =>
      cases items with
      | nil =>
        cases h
        exact ⟨[], .nothing, rfl⟩
      | cons v items =>
        cases v <;> cases items <;> cases h
        exact ⟨_, .item _, rfl⟩
    | null => cases h
    | bool => cases h
    | num => cases h
    | str => cases h
  · rintro ⟨rules, hgives, rfl⟩
    cases hgives with
    | absent hlookup => simp only [ofJson, hlookup]; rfl
    | member hlookup => simp only [ofJson, hlookup]; rfl
    | nothing => rfl
    | item => rfl

/-- A value gives its rules in one way: `Gives` is a partial function. -/
theorem Gives.unique (h : Gives v rules) (h' : Gives v rules') : rules = rules' := by
  cases h with
  | absent hlookup =>
    cases h' with
    | absent => rfl
    | member hlookup' => cases hlookup.symm.trans hlookup'
  | member hlookup =>
    cases h' with
    | absent hlookup' => cases hlookup.symm.trans hlookup'
    | member hlookup' =>
      cases hlookup.symm.trans hlookup'
      rfl
  | nothing =>
    cases h'
    rfl
  | item =>
    cases h'
    rfl

/-- The rules in a value that repeats no key (`Relaxed.IsProper`) do not repeat one either, since
    they are the members of one object. -/
theorem Gives.nodup (h : Gives v rules) (hv : Relaxed.IsProper v) : (rules.map Prod.fst).Nodup := by
  cases h with
  | absent => exact List.nodup_nil
  | nothing => exact List.nodup_nil
  | member hlookup =>
    cases hv with
    | obj _ hmembers =>
      cases hmembers _ (Keyed.mem_of_lookup hlookup) with
      | obj hnodup _ => exact hnodup
  | item rules =>
    cases hv with
    | arr hitems =>
      cases hitems _ (List.mem_singleton_self _) with
      | obj hnodup _ => exact hnodup

/-- **The texts that are accepted** are those with a value that gives rules: `Relaxed.read` and
    `ofJson` put together. -/
theorem ofText_eq_ok_iff :
    ofText t = .ok c ↔ ∃ v rules, Relaxed.read t = .ok (some v) ∧ Gives v rules ∧
      c = ofRules rules := by
  constructor
  · intro h
    unfold ofText at h
    split at h
    case h_1 => cases h
    case h_2 => cases h
    case h_3 v hread =>
      cases hv : ofJson v with
      | error e =>
        rw [hv] at h
        cases h
      | ok c' =>
        rw [hv] at h
        cases h
        obtain ⟨rules, hgives, hc⟩ := ofJson_eq_ok_iff.mp hv
        exact ⟨v, rules, hread, hgives, hc⟩
  · rintro ⟨v, rules, hread, hgives, rfl⟩
    have hv := ofJson_eq_ok_iff.mpr ⟨rules, hgives, rfl⟩
    simp only [ofText, hread, hv]
    rfl

/-- An accepted text has the rules stored that its value gives; by `Relaxed.proper_of_read` the
    value repeats no key. -/
theorem Stores.of_ofText (h : ofText t = .ok c) (hread : Relaxed.read t = .ok (some v))
    (hgives : Gives v rules) : c.Stores rules := by
  obtain ⟨w, rules', hread', hgives', rfl⟩ := ofText_eq_ok_iff.mp h
  cases hread.symm.trans hread'
  obtain rfl := hgives.unique hgives'
  exact stores_ofRules (hgives.nodup (Relaxed.proper_of_read hread))

/-- **Accepted texts.** `Config.ofText` accepts a text just when it has a value that gives rules
    (`Gives`); stored are exactly those rules (`Stores`). Every other text is an error of the
    configuration. -/
theorem ofText_accepts (t : Text) :
    ((∃ c, ofText t = .ok c) ↔ ∃ v rules, Relaxed.read t = .ok (some v) ∧ Gives v rules) ∧
    (∀ v rules c, Relaxed.read t = .ok (some v) → Gives v rules → ofText t = .ok c →
      c.Stores rules) ∧
    ((¬ ∃ v rules, Relaxed.read t = .ok (some v) ∧ Gives v rules) →
      ∃ failure, ofText t = .error failure ∧
        ∃ what : Text, failure.message = "Configuration error: " ++ what) := by
  have haccepted : (∃ c, ofText t = .ok c) ↔
      ∃ v rules, Relaxed.read t = .ok (some v) ∧ Gives v rules := by
    constructor
    · rintro ⟨c, hc⟩
      obtain ⟨v, rules, hread, hgives, -⟩ := ofText_eq_ok_iff.mp hc
      exact ⟨v, rules, hread, hgives⟩
    · rintro ⟨v, rules, hread, hgives⟩
      exact ⟨ofRules rules, ofText_eq_ok_iff.mpr ⟨v, rules, hread, hgives, rfl⟩⟩
  refine ⟨haccepted, fun v rules c hread hgives hc => .of_ofText hc hread hgives, ?_⟩
  intro hnone
  cases ht : ofText t with
  | error failure => exact ⟨failure, rfl, _, rfl⟩
  | ok c => exact absurd (haccepted.mp ⟨c, ht⟩) hnone

/-- A text whose value is an array with the rules. -/
def arrayOfRules : Text := "[\x7b\"contrast\": false\x7d]"

/-- The value of `arrayOfRules` is no object, however its members are chosen. -/
theorem read_arrayOfRules_ne_obj (members : List (Text × Json)) :
    Relaxed.read arrayOfRules ≠ .ok (some (.obj members)) := by
  intro hread
  have hshape : (Relaxed.read arrayOfRules).toOption.join.map Json.describe =
      some "sequence".toList := by decide +kernel
  rw [hread] at hshape
  exact absurd (Option.some.inj hshape) (by decide : "map".toList ≠ "sequence".toList)

/-- `arrayOfRules` is accepted although its value is no object: its item gives the rules, as for a
    structure that is written as a sequence of its fields. -/
theorem ofText_array :
    (∃ c, ofText arrayOfRules = .ok c ∧ c.isEnabled "contrast" = false) ∧
    ¬ ∃ members, Relaxed.read arrayOfRules = .ok (some (.obj members)) := by
  have hoff : (ofText arrayOfRules).toOption.map (fun c => c.isEnabled "contrast") =
      some false := by decide +kernel
  refine ⟨?_, fun ⟨members, hread⟩ => read_arrayOfRules_ne_obj members hread⟩
  cases hc : ofText arrayOfRules with
  | error failure =>
    rw [hc] at hoff
    cases hoff
  | ok c =>
    rw [hc] at hoff
    exact ⟨c, rfl, Option.some.inj hoff⟩

end Config

end AccessLint
