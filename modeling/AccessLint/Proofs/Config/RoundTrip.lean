import AccessLint.Proofs.Config.Accept
import AccessLint.Proofs.Json.Layout

namespace AccessLint

/-!
# Configurations that are written and read again

A configuration is the same after it was written and read, on one line, over several lines or with
blanks and comments between its tokens.

* `RuleOption.Writable` — options that a text can hold;
* `Config.ofRules_toJson` — an option is told from a boolean and from any other value;
* `Config.ofText_toJson` — a configuration of such options is read back from each of its texts.
-/

open Json Json.Relaxed

/-- Options that a text can hold: on or off, or a value that is no boolean, with whole numbers that
    fit a word and without repeated keys. -/
inductive RuleOption.Writable : RuleOption → Prop
  | enabled (b : Bool) : Writable (.enabled b)
  | other {v : Json} : (∀ b, v ≠ .bool b) → Proper FitsWord v → Writable (.other v)

namespace RuleOption.Writable

theorem null : Writable (.other .null) := .other nofun .null

theorem str (s : Text) : Writable (.other (.str s)) := .other nofun (.str s)

/-- Every signed word can be written: `Json.write` gives all its digits. -/
theorem int {n : Int} (h : -(Decimal.twoTo 63 : Int) ≤ n ∧ n < Decimal.twoTo 63) :
    Writable (.other (.num (.int n))) := by
  have hword : Decimal.twoTo 63 ≤ Decimal.twoTo 64 := by decide
  have hfits : FitsWord (.int n) := ⟨h.1, by omega⟩
  exact .other nofun (.num hfits)

/-- The value that `RuleOption.toJson` gives describes the option, unless the option is a boolean
    that is kept as another value. -/
theorem ofJson_toJson {o : RuleOption} (h : o.Writable) : RuleOption.ofJson o.toJson = o := by
  cases h with
  | enabled b => rfl
  | other hnot _ => exact RuleOption.ofJson_eq_other_iff.mpr ⟨rfl, hnot⟩

theorem proper_toJson {o : RuleOption} (h : o.Writable) : Proper FitsWord o.toJson := by
  cases h with
  | enabled b => exact .bool b
  | other _ hproper => exact hproper

end RuleOption.Writable

namespace Config

variable {c : Config}

/-- The values of all options describe them, so `ofRules` gives the configuration again, in the
    order of the rules. -/
theorem ofRules_toJson (h : ∀ rule ∈ c.rules, rule.2.Writable) :
    ofRules (c.rules.map fun (k, o) => (k, o.toJson)) = c := by
  have hsame : ∀ rule ∈ c.rules, (rule.1, RuleOption.ofJson rule.2.toJson) = rule :=
    fun rule hrule => Prod.ext rfl (h rule hrule).ofJson_toJson
  show Config.mk _ = _
  rw [List.map_map]
  exact congrArg Config.mk ((List.map_congr_left hsame).trans (List.map_id _))

theorem proper_toJson (hnodup : (c.rules.map Prod.fst).Nodup)
    (h : ∀ rule ∈ c.rules, rule.2.Writable) : Proper FitsWord c.toJson := by
  have hkeys : ((c.rules.map fun (k, o) => (k, o.toJson)).map Prod.fst).Nodup := by
    rw [List.map_map]
    exact hnodup
  have hrules : Proper FitsWord (.obj (c.rules.map fun (k, o) => (k, o.toJson))) := by
    refine .obj hkeys fun m hm => ?_
    obtain ⟨rule, hrule, rfl⟩ := List.mem_map.mp hm
    exact (h rule hrule).proper_toJson
  refine .obj (by simp) fun m hm => ?_
  rw [List.mem_singleton.mp hm]
  exact hrules

/-- **A configuration is read back** from each of its texts (`Layout`), with blanks and comments
    around it and between its tokens; on one line and over several lines among them. The keys may be
    any texts that differ. -/
theorem ofText_toJson (hnodup : (c.rules.map Prod.fst).Nodup)
    (hrules : ∀ rule ∈ c.rules, rule.2.Writable) :
    ofText (write c.toJson) = .ok c ∧ ofText (pretty c.toJson) = .ok c ∧
      ∀ before t after, Gap before → Layout (.value c.toJson) t → Gap after →
        ofText (before ++ (t ++ after)) = .ok c := by
  have hlayout : ∀ before t after, Gap before → Layout (.value c.toJson) t → Gap after →
      ofText (before ++ (t ++ after)) = .ok c := by
    intro before t after hbefore ht hafter
    exact ofText_eq_ok_iff.mpr ⟨c.toJson, _, read_of_layout hbefore ht hafter, .member rfl,
      (ofRules_toJson hrules).symm⟩
  have hproper := proper_toJson hnodup hrules
  refine ⟨?_, ?_, hlayout⟩
  · simpa using hlayout [] _ [] .none (layout_write hproper) .none
  · simpa using hlayout [] _ [] .none (layout_pretty hproper) .none

/-- Keys and strings that hold quotes, backslashes, the marks of comments, control characters and a
    character outside the basic plane, and the least and the greatest signed word. -/
def escapes : Config where
  rules := [("\"//\\", .enabled false), ("/* \x00\n", .enabled true), ("", .other .null),
    ("*/", .other (.str "\\u0041\t\"😀 // ,\x7d")),
    ("-1", .other (.num (.int (-9223372036854775808)))),
    ("true", .other (.num (.int 9223372036854775807)))]

/-- The configuration `escapes` is read back on one line and over several lines. -/
theorem ofText_toJson_escapes :
    (escapes.rules.map Prod.fst).Nodup ∧ (∀ rule ∈ escapes.rules, rule.2.Writable) ∧
      ofText (write escapes.toJson) = .ok escapes ∧ ofText (pretty escapes.toJson) = .ok escapes := by
  have hnodup : (escapes.rules.map Prod.fst).Nodup := by decide
  have hrules : ∀ rule ∈ escapes.rules, rule.2.Writable := by
    simp only [escapes, List.forall_mem_cons, List.not_mem_nil, false_imp_iff, implies_true,
      and_true]
    exact ⟨.enabled _, .enabled _, .null, .str _, .int (by decide), .int (by decide)⟩
  obtain ⟨hwrite, hpretty, -⟩ := ofText_toJson hnodup hrules
  exact ⟨hnodup, hrules, hwrite, hpretty⟩

end Config

end AccessLint
