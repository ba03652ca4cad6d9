import AccessLint.Proofs.Config.Accept
import AccessLint.Proofs.Text.Utf8
import Mathlib.Data.List.Induction

namespace AccessLint.Config

/-!
# Configurations in use

A configuration starts as the default one and is changed step by step: keys are set, and texts and
files replace it. Whether a key is on depends on the last step that says something about it.

* `Step`, `after` — the steps, and the configuration after some steps;
* `Step.Replaces`, `Step.Leaves` — what a step says about the keys;
* `Step.cases` — every step is of one kind;
* `Plain` — configurations whose booleans turn keys on or off;
* `Decided` — whether a key is on, as the last step that counts has it;
* `plain_after`, `decided_after` — every configuration in use is plain, and its keys are so decided;
* `load_of_encode`, `load_eq_default` — what is loaded from a file.
-/

open Json

/-- A step: setting a key, reading a text, or loading what there is in place of a file. -/
inductive Step where
  | set (key : Text) (on : Bool)
  | parse (text : Text)
  | load (content : Except FileFault (List UInt8))

/-- The configuration after a step. A text that is not accepted changes nothing. -/
def Step.apply (c : Config) : Step → Config
  | .set key on => c.set key on
  | .parse text =>
    match ofText text with
    | .ok c' => c'
    | .error _ => c
  | .load content => Config.load content

/-- The configuration after some steps from the default one. -/
def after (steps : List Step) : Config := steps.foldl Step.apply default

variable {c : Config} {key text : Text} {on : Bool} {step : Step} {steps : List Step}
  {rules : List (Text × Json)} {content : Except FileFault (List UInt8)}

/-! ### Setting a key -/

/-- **One key is set** by `Config.set`, and the others stay as they are. -/
theorem get?_set (c : Config) (key : Text) (on : Bool) (k : Text) :
    (c.set key on).get? k = if k = key then some (.enabled on) else c.get? k := by
  rw [get?, set, Keyed.lookup_put]
  rfl

/-- Only the option `false` turns a key off: a key that is absent or has another value counts as
    on. -/
theorem isEnabled_eq_false_iff : c.isEnabled key = false ↔ c.get? key = some (.enabled false) := by
  unfold isEnabled
  cases c.get? key with
  | none => simp
  | some o => cases o <;> simp [RuleOption.isEnabled]

theorem isEnabled_set (c : Config) (key : Text) (on : Bool) : (c.set key on).isEnabled key = on := by
  rw [isEnabled, get?_set, if_pos rfl]
  rfl

theorem isEnabled_of_get?_eq {c' : Config} (h : c.get? key = c'.get? key) :
    c.isEnabled key = c'.isEnabled key := by
  rw [isEnabled, h, isEnabled]

/-! ### Loading a file -/

/-- `Config.load` of a file with an accepted text is the configuration of the text, once its bytes
    are decoded. -/
theorem load_of_encode (h : ofText text = .ok c) : load (.ok (Text.encode text)) = c := by
  simp only [load, ofFile, Text.decode?_eq_some_iff.mpr rfl, h]

/-- A file that is absent, is not UTF-8 or has no accepted text loads as the default: `Config.load`
    reports it in the log alone. -/
theorem load_eq_default
    (h : ∀ text c, content = .ok (Text.encode text) → ofText text ≠ .ok c) :
    load content = default := by
  unfold load
  split
  case h_2 => rfl
  case h_1 c hc =>
    unfold ofFile at hc
    split at hc
    case h_1 => cases hc
    case h_2 bytes =>
      split at hc
      case h_1 => cases hc
      case h_2 text hdecode =>
        rw [Text.decode?_eq_some_iff.mp hdecode] at h
        exact absurd hc (h text c rfl)

/-! ### What a step says -/

/-- A step that replaces the configuration by some rules: an accepted text, or a file. A file
    without an accepted text has no rules. -/
inductive Step.Replaces : Step → List (Text × Json) → Prop
  | parse {text : Text} {v : Json} {rules : List (Text × Json)} :
      Relaxed.read text = .ok (some v) → Gives v rules → Replaces (.parse text) rules
  | load {text : Text} {v : Json} {rules : List (Text × Json)} :
      Relaxed.read text = .ok (some v) → Gives v rules →
      Replaces (.load (.ok (Text.encode text))) rules
  | fallBack {content : Except FileFault (List UInt8)} :
      (∀ text v rules, content = .ok (Text.encode text) → Relaxed.read text = .ok (some v) →
        ¬ Gives v rules) → Replaces (.load content) []

/-- A step that says nothing about a key: setting another key, or a text that is not accepted. -/
inductive Step.Leaves (key : Text) : Step → Prop
  | set {k : Text} (on : Bool) : k ≠ key → Leaves key (.set k on)
  | parse {text : Text} : (∀ v rules, Relaxed.read text = .ok (some v) → ¬ Gives v rules) →
      Leaves key (.parse text)

/-- **Every step** leaves a key (`Step.Leaves`), sets it, or replaces the configuration
    (`Step.Replaces`). -/
theorem Step.cases (key : Text) (step : Step) :
    step.Leaves key ∨ (∃ on, step = .set key on) ∨ ∃ rules, step.Replaces rules := by
  cases step with
  | set k on =>
    by_cases hk : k = key
    · exact Or.inr (Or.inl ⟨on, by rw [hk]⟩)
    · exact Or.inl (.set on hk)
  | parse text =>
    by_cases h : ∃ v rules, Relaxed.read text = .ok (some v) ∧ Gives v rules
    · obtain ⟨v, rules, hread, hgives⟩ := h
      exact Or.inr (Or.inr ⟨rules, .parse hread hgives⟩)
    · exact Or.inl (.parse fun v rules hread hgives => h ⟨v, rules, hread, hgives⟩)
  | load content =>
    -- a file always replaces the options, if only by the defaults
    refine Or.inr (Or.inr ?_)
    by_cases h : ∃ text v rules, content = .ok (Text.encode text) ∧
        Relaxed.read text = .ok (some v) ∧ Gives v rules
    · obtain ⟨text, v, rules, rfl, hread, hgives⟩ := h
      exact ⟨rules, .load hread hgives⟩
    · refine ⟨[], .fallBack fun text v rules hcontent hread hgives => ?_⟩
      exact h ⟨text, v, rules, hcontent, hread, hgives⟩

theorem stores_default : default.Stores [] where
  distinct := List.nodup_nil
  enabled key b := by simp [get?, default]
  other key v := by simp [get?, default]

/-- **A replacing step** (`Step.Replaces`) leaves its rules behind, whatever was there before. -/
theorem stores_of_replaces (h : step.Replaces rules) : (step.apply c).Stores rules := by
  cases h with
  | parse hread hgives =>
    have hc := ofText_eq_ok_iff.mpr ⟨_, _, hread, hgives, rfl⟩
    rw [Step.apply, hc]
    exact .of_ofText hc hread hgives
  | load hread hgives =>
    have hc := ofText_eq_ok_iff.mpr ⟨_, _, hread, hgives, rfl⟩
    rw [Step.apply, load_of_encode hc]
    exact .of_ofText hc hread hgives
  | fallBack hnone =>
    have hdefault : load _ = default := load_eq_default fun text c hcontent hc => by
      obtain ⟨v, rules, hread, hgives, -⟩ := ofText_eq_ok_iff.mp hc
      exact hnone text v rules hcontent hread hgives
    rw [Step.apply, hdefault]
    exact stores_default

/-- A step that says nothing about a key (`Step.Leaves`) does not change what `get?` has for it. -/
theorem get?_of_leaves (h : step.Leaves key) : (step.apply c).get? key = c.get? key := by
  cases h with
  | set on hne => rw [Step.apply, get?_set, if_neg (Ne.symm hne)]
  | @parse text hnone =>
    rw [Step.apply]
    split
    case h_1 c' hc =>
      obtain ⟨v, rules, hread, hgives, -⟩ := ofText_eq_ok_iff.mp hc
      exact absurd hgives (hnone v rules hread)
    case h_2 => rfl

/-! ### No boolean is kept as another value -/

/-- Configurations in which each boolean turns its key on or off. -/
def Plain (c : Config) : Prop := ∀ key b, c.get? key ≠ some (.other (.bool b))

/-- A configuration that stores rules is `Plain`, since a boolean of the rules turns its key on or
    off. -/
theorem Stores.plain (h : c.Stores rules) : c.Plain := by
  intro key b hother
  exact ((h.other key (.bool b)).mp hother).2 b rfl

/-- Every step keeps a configuration plain: the step lemma of `plain_after`. -/
theorem Plain.apply (h : c.Plain) (step : Step) : (step.apply c).Plain := by
  intro key b hother
  rcases step.cases key with hleaves | ⟨on, rfl⟩ | ⟨rules, hrules⟩
  · rw [get?_of_leaves hleaves] at hother
    exact h key b hother
  · rw [Step.apply, get?_set, if_pos rfl] at hother
    cases hother
  · exact (stores_of_replaces hrules).plain key b hother

/-- **Every configuration in use is `Plain`**, by induction on the steps. -/
theorem plain_after (steps : List Step) : (after steps).Plain := by
  unfold after
  suffices h : ∀ c : Config, c.Plain → (steps.foldl Step.apply c).Plain from
    h default stores_default.plain
  induction steps with
  | nil => exact fun c hc => hc
  | cons step steps ih => exact fun c hc => ih _ (hc.apply step)

/-- A key of a plain configuration is off just when `false` is stored under it; in others `false`
    could be kept as another value. -/
theorem Plain.isEnabled_eq_false_iff (h : c.Plain) :
    c.isEnabled key = false ↔ (c.get? key).map RuleOption.toJson = some (.bool false) := by
  rw [Config.isEnabled_eq_false_iff]
  cases ho : c.get? key with
  | none => simp
  | some o =>
    cases o with
    | enabled b => simp [RuleOption.toJson]
    | other v =>
      have hv : v ≠ .bool false := fun heq => h key false (heq ▸ ho)
      simp [RuleOption.toJson, hv]

/-! ### The last step that counts -/

/-- Whether a key is on after some steps: as the last step says that sets the key, unless the
    configuration is replaced later; else just if the rules that replaced it last do not turn the
    key off; and if nothing says anything about it, it is on. -/
inductive Decided (key : Text) : List Step → Bool → Prop
  | untouched {steps : List Step} : (∀ s ∈ steps, s.Leaves key) → Decided key steps true
  | set {earlier later : List Step} {on : Bool} : (∀ s ∈ later, s.Leaves key) →
      Decided key (earlier ++ .set key on :: later) on
  | replaced {earlier later : List Step} {step : Step} {rules : List (Text × Json)} {on : Bool} :
      step.Replaces rules → (on = false ↔ (key, .bool false) ∈ rules) →
      (∀ s ∈ later, s.Leaves key) → Decided key (earlier ++ step :: later) on

/-- A last step that says nothing about the key decides nothing: what was `Decided` before stays
    so. -/
theorem Decided.concat (h : Decided key steps on) (hleaves : step.Leaves key) :
    Decided key (steps ++ [step]) on := by
  have hlater : ∀ {later : List Step}, (∀ s ∈ later, s.Leaves key) →
      ∀ s ∈ later ++ [step], s.Leaves key := by
    intro later h s hs
    rcases List.mem_append.mp hs with hs | hs
    · exact h s hs
    · exact List.mem_singleton.mp hs ▸ hleaves
  cases h with
  | untouched h => exact .untouched (hlater h)
  | set h =>
    rw [List.append_assoc, List.cons_append]
    exact .set (hlater h)
  | replaced hrules hon h =>
    rw [List.append_assoc, List.cons_append]
    exact .replaced hrules hon (hlater h)

theorem after_concat (steps : List Step) (step : Step) :
    after (steps ++ [step]) = step.apply (after steps) := by
  rw [after, List.foldl_append]
  rfl

/-- A key of stored rules is off just when the rules hold `false` under it. -/
theorem Stores.isEnabled_eq_false_iff (h : c.Stores rules) :
    c.isEnabled key = false ↔ (key, .bool false) ∈ rules := by
  rw [Config.isEnabled_eq_false_iff, h.enabled]

/-- **The last step that counts** decides whether a key is on. The induction is on the steps from
    their end, with `Step.cases` for the last one. -/
theorem decided_after (key : Text) (steps : List Step) :
    Decided key steps ((after steps).isEnabled key) := by
  induction steps using List.reverseRecOn with
  | nil => exact .untouched (by simp)
  | append_singleton steps step ih =>
    rw [after_concat]
    rcases step.cases key with hleaves | ⟨on, rfl⟩ | ⟨rules, hrules⟩
    · rw [isEnabled_of_get?_eq (get?_of_leaves hleaves)]
      exact ih.concat hleaves
    · rw [Step.apply, isEnabled_set]
      exact .set (by simp)
    · exact .replaced hrules (stores_of_replaces hrules).isEnabled_eq_false_iff (by simp)

/-- Steps that say nothing about a key do not change it, however many they are: `get?_of_leaves`
    step by step. -/
theorem get?_foldl_of_leaves (h : ∀ s ∈ steps, s.Leaves key) (c : Config) :
    (steps.foldl Step.apply c).get? key = c.get? key := by
  induction steps generalizing c with
  | nil => rfl
  | cons step steps ih =>
    rw [List.foldl_cons, ih fun s hs => h s (List.mem_cons_of_mem _ hs),
      get?_of_leaves (h step List.mem_cons_self)]

/-- What is decided is so: with `decided_after` this makes `Decided` a description of
    `isEnabled`. -/
theorem Decided.isEnabled_after (h : Decided key steps on) : (after steps).isEnabled key = on := by
  cases h with
  | untouched h =>
    rw [after, isEnabled_of_get?_eq (get?_foldl_of_leaves h default)]
    rfl
  | set h =>
    rw [after, List.foldl_append, List.foldl_cons,
      isEnabled_of_get?_eq (get?_foldl_of_leaves h _), Step.apply, isEnabled_set]
  | @replaced earlier later step rules on hrules hon h =>
    have hstores : (step.apply (earlier.foldl Step.apply default)).Stores rules :=
      stores_of_replaces hrules
    rw [after, List.foldl_append, List.foldl_cons, isEnabled_of_get?_eq (get?_foldl_of_leaves h _)]
    exact Bool.eq_iff_iff.mpr
      (by simpa using not_congr (hstores.isEnabled_eq_false_iff.trans hon.symm))

/-- **Configurations in use.** After any steps no boolean is kept as another value, so that a key is
    off just when `false` is stored under it; a key is on or off as the last step that counts has
    it; setting a key changes no other; and loading a file is reading its text, or else the default
    configuration. -/
theorem after_steps (steps : List Step) :
    (∀ key b, (after steps).get? key ≠ some (.other (.bool b))) ∧
    (∀ key, (after steps).isEnabled key = false ↔
      ((after steps).get? key).map RuleOption.toJson = some (.bool false)) ∧
    (∀ key on, (after steps).isEnabled key = on ↔ Decided key steps on) ∧
    (∀ key on k, k ≠ key → ((after steps).set key on).get? k = (after steps).get? k) ∧
    (∀ text c, ofText text = .ok c → load (.ok (Text.encode text)) = c) ∧
    ∀ content, (∀ text c, content = .ok (Text.encode text) → ofText text ≠ .ok c) →
      load content = default := by
  refine ⟨plain_after steps, fun key => (plain_after steps).isEnabled_eq_false_iff, ?_, ?_,
    fun text c => load_of_encode, fun content => load_eq_default⟩
  · intro key on
    constructor
    · rintro rfl
      exact decided_after key steps
    · exact Decided.isEnabled_after
  · intro key on k hk
    rw [get?_set, if_neg hk]

/-- A file whose value has no member `rules` can turn a key off, if it is an array. -/
theorem isEnabled_after_array :
    (after [.load (.ok (Text.encode arrayOfRules))]).isEnabled "contrast" = false ∧
    ¬ ∃ v rules, Relaxed.read arrayOfRules = .ok (some v) ∧ v.get? "rules" = some (.obj rules) ∧
      ("contrast".toList, .bool false) ∈ rules := by
  refine ⟨by decide +kernel, ?_⟩
  rintro ⟨v, rules, hread, hrules, -⟩
  cases v with
  | obj members => exact read_arrayOfRules_ne_obj members hread
  | _ => cases hrules

end AccessLint.Config
