import AccessLint.Proofs.Json.Pretty
import AccessLint.Report.Basic

namespace AccessLint

/-!
# Reading an export

The text of an export is JSON that stands for the findings in it, so nothing is lost.

* `Finding.ofJson_toJson` — the object of a finding stands for it;
* `Finding.proper_toJson` — its line is a number that JSON can hold;
* `Report.read_exported` — an export is read back, and no other findings have the same one.
-/

namespace Finding

/-- **The object of a finding** stands for it: `Finding.ofJson` reads each field that
    `Finding.toJson` writes. -/
theorem ofJson_toJson (f : Finding) : Finding.ofJson f.toJson = .ok f := by
  have hkind : Kind.ofJson (.str f.kind.name) = .ok f.kind := by
    unfold Kind.ofJson Kind.ofName
    dsimp only
    rw [Kind.ofName?_name]
  have hline : Json.toLine (.ofNat f.line) = .ok f.line := by
    simp [Json.toLine, Json.ofNat]
  have hfields : [("file".toList, Json.str f.file), ("line".toList, .ofNat f.line),
      ("type".toList, .str f.kind.name), ("message".toList, .str f.message)].foldlM Fields.take
        ⟨none, none, none, none⟩ =
      .ok ⟨some f.file, some f.line, some f.kind, some f.message⟩ := by
    simp [Fields.take, hkind, hline, Json.toText, Except.map, bind, Except.bind, pure,
      Except.pure]
  unfold Finding.ofJson toJson
  dsimp only
  rw [hfields]
  rfl

/-- `Finding.listOfJson` reads the array of the objects of some findings, in the same order. -/
theorem listOfJson_map_toJson (fs : List Finding) :
    listOfJson (.arr (fs.map toJson)) = .ok fs := by
  unfold listOfJson
  induction fs with
  | nil => rfl
  | cons f fs ih =>
    dsimp only at ih ⊢
    rw [List.map_cons, List.mapM_cons, ofJson_toJson, ih]
    rfl

/-- **The line of a finding** is a number that fits, if it is below the greatest word
    (`Json.FitsWord`); all other fields are texts. -/
theorem proper_toJson {f : Finding} (h : f.line < Decimal.twoTo 64) : Json.Proper Json.FitsWord f.toJson := by
  have hline : Json.FitsWord (.int f.line) := by
    unfold Json.FitsWord
    omega
  have hkeys : (["file", "line", "type", "message"].map String.toList).Nodup := by decide
  refine .obj hkeys ?_
  intro m hm
  simp only [List.mem_cons, List.not_mem_nil, or_false] at hm
  rcases hm with rfl | rfl | rfl | rfl
  · exact .str _
  · exact .num hline
  · exact .str _
  · exact .str _

end Finding

namespace Report

/-- The export of findings whose lines fit a word is the JSON of these findings, over several lines
    (`Json.read?_pretty`). -/
theorem read?_exported {fs : List Finding} (h : ∀ f ∈ fs, f.line < Decimal.twoTo 64) :
    Json.read? (exported fs) = some (.arr (fs.map Finding.toJson)) := by
  refine Json.read?_pretty (.arr fun v hv => ?_)
  obtain ⟨f, hf, rfl⟩ := List.mem_map.mp hv
  exact Finding.proper_toJson (h f hf)

/-- **An export is read back.** What `exported` writes is JSON that stands for the same findings in
    the same order, each as often as before; so no other findings have the same export. -/
theorem read_exported {fs : List Finding} (h : ∀ f ∈ fs, f.line < Decimal.twoTo 64) :
    (∃ v, Json.read? (exported fs) = some v ∧ Finding.listOfJson v = .ok fs) ∧
      ∀ gs : List Finding, (∀ g ∈ gs, g.line < Decimal.twoTo 64) → exported gs = exported fs → gs = fs := by
  refine ⟨⟨_, read?_exported h, Finding.listOfJson_map_toJson fs⟩, fun gs hgs heq => ?_⟩
  -- both lists are read from the same text
  have hread := read?_exported hgs
  rw [heq, read?_exported h] at hread
  have hlist := Finding.listOfJson_map_toJson gs
  rw [← Option.some.inj hread, Finding.listOfJson_map_toJson] at hlist
  exact (Except.ok.inj hlist).symm

/-- Findings with all that is special in a string, one of them at the greatest line. -/
theorem read_exported_special :
    let fs : List Finding := [
      ⟨"a \"quoted\" \\ page/😀.html", Decimal.twoTo 64 - 1, .multipleH1, "tab\t, line\n and \x00\x1f"⟩,
      ⟨[], 1, .contrast, []⟩]
    (∀ f ∈ fs, f.line < Decimal.twoTo 64) ∧
      (∃ v, Json.read? (exported fs) = some v ∧ Finding.listOfJson v = .ok fs) ∧
      exported fs.reverse ≠ exported fs := by
  intro fs
  have hlines : ∀ f ∈ fs, f.line < Decimal.twoTo 64 := by decide
  obtain ⟨hread, hunique⟩ := read_exported hlines
  have hreverse : fs.reverse ≠ fs := by decide
  refine ⟨hlines, hread, fun heq => hreverse (hunique _ ?_ heq)⟩
  intro f hf
  exact hlines f (List.mem_reverse.mp hf)

end Report

end AccessLint
