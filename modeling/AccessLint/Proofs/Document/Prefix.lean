import AccessLint.Proofs.Document.Leftmost
import AccessLint.Proofs.Source.Prefix
import AccessLint.Text.Keyed

namespace AccessLint.Document

/-!
# A tree located behind some text

The same tree is located in a source and in the source behind a text without a `<`.

* `Document.locateElements_after_text` — the offsets are as many bytes greater as the text has;
* `Document.offsetOf_after_text` — so the same elements are located, further on, and on later lines.
-/

open Html (Element NodeId Tree)

variable {before : Text} {e : ElementAt} {o : Nat}

/-- `locateElements` finds the same behind a text without a `<`, as many bytes further on as the
    text has. -/
theorem locateElements_after_text (h : '<' ∉ before) (source : Text) (tree : Tree)
    (names : List Text) :
    locateElements (before ++ source) tree names =
      (locateElements source tree names).map fun p => (p.1, Text.utf8Size before + p.2) := by
  have hmarkup : ∀ x ∈ tree.elements, (tree.markup x.1).head? = some '<' := fun x hx =>
    head?_markup hx
  unfold locateElements
  rw [Source.locateAll_after_text h _ hmarkup, List.map_map, List.map_map]
  rfl

/-- **Text in front of a source.** Let a text without a `<` stand in front of a source, and let the
    same tree be located in both. Then exactly the same elements are located, as many bytes further
    on as the text has, and as many lines further down as it has line feeds. -/
theorem offsetOf_after_text (h : '<' ∉ before) (source : Text) (tree : Tree) :
    (∀ e, (ofTree (before ++ source) tree).offsetOf? e =
      ((ofTree source tree).offsetOf? e).map (Text.utf8Size before + ·)) ∧
    ∀ e o, (ofTree source tree).offsetOf? e = some o →
      (ofTree (before ++ source) tree).lineOf e =
        (ofTree source tree).lineOf e + before.count '\n' := by
  have hoffset : ∀ e, (ofTree (before ++ source) tree).offsetOf? e =
      ((ofTree source tree).offsetOf? e).map (Text.utf8Size before + ·) := by
    intro e
    show (locateElements (before ++ source) tree (elementNames tree)).lookup e.id = _
    rw [locateElements_after_text h, Keyed.lookup_map]
    rfl
  refine ⟨hoffset, fun e o ho => ?_⟩
  show Source.lineAt (before ++ source) (((ofTree (before ++ source) tree).offsetOf? e).getD 0) =
    Source.lineAt source (((ofTree source tree).offsetOf? e).getD 0) + before.count '\n'
  rw [hoffset, ho]
  exact Source.lineAt_after_text before source o

/-- Two lines, one of them with a character of two bytes, in front of two paragraphs of which only
    the second has a tag: its `offsetOf?` and its `lineOf` move. -/
theorem offsetOf_after_text_lines :
    let before : Text := "é\n\n"
    let source : Text := "<div></p>\n<p>b</p></div>"
    let moved := ofTree (before ++ source) (Html.parse source)
    '<' ∉ before ∧ moved.offsetOf? ⟨5, ⟨.html, "p", []⟩⟩ = none ∧
      moved.offsetOf? ⟨7, ⟨.html, "p", []⟩⟩ = some 14 ∧ moved.lineOf ⟨7, ⟨.html, "p", []⟩⟩ = 4 := by
  intro before source moved
  have hbefore : '<' ∉ before := by decide
  obtain ⟨hmissed, hfound, hline⟩ :
      (parse source).offsetOf? ⟨5, ⟨.html, "p", []⟩⟩ = none ∧
      (parse source).offsetOf? ⟨7, ⟨.html, "p", []⟩⟩ = some 10 ∧
      (parse source).lineOf ⟨7, ⟨.html, "p", []⟩⟩ = 2 := by decide +kernel
  obtain ⟨hoffsets, hlines⟩ := offsetOf_after_text hbefore source (Html.parse source)
  refine ⟨hbefore, ?_, ?_, ?_⟩
  · exact (hoffsets _).trans (congrArg (Option.map _) hmissed)
  · exact (hoffsets _).trans (congrArg (Option.map _) hfound)
  · exact (hlines _ _ hfound).trans (congrArg (· + 2) hline)

end AccessLint.Document
