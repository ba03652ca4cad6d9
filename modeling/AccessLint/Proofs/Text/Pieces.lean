import AccessLint.Text.Blank
import Mathlib.Data.List.DropRight
import Mathlib.Data.List.TakeWhile

namespace AccessLint.Text

/-!
# Pieces of a text

What a text is cut into at separators, and what is left of it between blanks.

* `exists_piece` — a text is one piece, or a first piece and the pieces behind a separator;
* `words_append`, `words_flatMap` — the words of a text, whatever the separators between them;
* `trim_append` — what is left of a text with blanks around it;
* `infix_of_mem_splitOnP`, `trim_infix` — pieces and trimmed texts occur in the text.
-/

variable {isSep : Char → Bool}

/-- **The first piece** of a text is all of it, or it ends before a separator. -/
theorem exists_piece (isSep : Char → Bool) (t : Text) :
    ∃ p, (∀ c ∈ p, isSep c = false) ∧ (t = p ∨ ∃ c b, isSep c = true ∧ t = p ++ c :: b) := by
  induction t with
  | nil => exact ⟨[], fun c hc => absurd hc List.not_mem_nil, Or.inl rfl⟩
  | cons d t ih =>
    cases hd : isSep d with
    | true => exact ⟨[], fun c hc => absurd hc List.not_mem_nil, Or.inr ⟨d, t, hd, rfl⟩⟩
    | false =>
      obtain ⟨p, hp, ht⟩ := ih
      refine ⟨d :: p, List.forall_mem_cons.mpr ⟨hd, hp⟩, ?_⟩
      rcases ht with rfl | ⟨c, b, hc, rfl⟩
      · exact Or.inl rfl
      · exact Or.inr ⟨c, b, hc, rfl⟩

/-- A piece of a text (`List.splitOnP`) occurs in it, so what no text has, no piece has. -/
theorem infix_of_mem_splitOnP {p t : Text} (h : p ∈ t.splitOnP isSep) : p <:+: t := by
  -- from piece to piece, on a text that gets shorter
  induction hn : t.length using Nat.strong_induction_on generalizing t with
  | _ n ih =>
    obtain ⟨q, hq, rfl | ⟨c, b, hc, rfl⟩⟩ := exists_piece isSep t
    · rw [List.splitOnP_eq_singleton hq, List.mem_singleton] at h
      exact h ▸ List.infix_rfl
    · rw [List.splitOnP_append_cons_of_forall_mem hq c hc] at h
      rcases List.mem_cons.mp h with rfl | hmem
      · exact (List.prefix_append p (c :: b)).isInfix
      · have hshorter : b.length < n := by
          rw [← hn, List.length_append, List.length_cons]
          omega
        have hb : b <:+ q ++ c :: b := ⟨q ++ [c], by simp⟩
        exact (ih b.length hshorter hmem rfl).trans hb.isInfix

/-- The pieces of a text whose characters are replaced, separators by separators, are the pieces
    with the characters replaced. -/
theorem splitOnP_map {f : Char → Char} (hf : ∀ c, isSep (f c) = isSep c) (t : Text) :
    (t.map f).splitOnP isSep = (t.splitOnP isSep).map (List.map f) := by
  induction t with
  | nil => rfl
  | cons c t ih =>
    rw [List.map_cons, List.splitOnP_cons_eq_if_modifyHead, List.splitOnP_cons_eq_if_modifyHead,
      hf, ih]
    cases isSep c with
    | true => rfl
    | false =>
      obtain ⟨p, ps, hps⟩ := List.exists_cons_of_ne_nil (List.splitOnP_ne_nil isSep t)
      rw [hps]
      rfl

/-! ### Words -/

theorem words_map {f : Char → Char} (hf : ∀ c, isSep (f c) = isSep c) (t : Text) :
    words isSep (t.map f) = (words isSep t).map (List.map f) := by
  unfold words
  rw [splitOnP_map hf, List.filter_map]
  congr 2
  funext p
  cases p <;> rfl

/-- **The `words` of two texts** with a separator between them are those of each of them. -/
theorem words_append {c : Char} (hc : isSep c = true) (a b : Text) :
    words isSep (a ++ c :: b) = words isSep a ++ words isSep b := by
  unfold words
  rw [List.splitOnP_append_cons a b hc, List.filter_append]

/-- A text without separators is one word, unless it is empty. -/
theorem words_eq_singleton {t : Text} (hne : t ≠ []) (h : ∀ c ∈ t, isSep c = false) :
    words isSep t = [t] := by
  unfold words
  rw [List.splitOnP_eq_singleton h]
  cases t with
  | nil => exact absurd rfl hne
  | cons c t => rfl

/-- Separators in front of a text do not count: they only make empty pieces. -/
theorem words_gap {gap : Text} (hgap : ∀ c ∈ gap, isSep c = true) (t : Text) :
    words isSep (gap ++ t) = words isSep t := by
  induction gap with
  | nil => rfl
  | cons c gap ih =>
    obtain ⟨hc, hgap⟩ := List.forall_mem_cons.mp hgap
    have hfirst := words_append hc [] (gap ++ t)
    rw [List.nil_append] at hfirst
    rw [List.cons_append, hfirst, ih hgap]
    rfl

/-- **Words with separators behind them** are the `words` of the text. Only the last word may do
    without. -/
theorem words_flatMap {ws : List (Text × Text)}
    (hword : ∀ w ∈ ws, w.1 ≠ [] ∧ ∀ c ∈ w.1, isSep c = false)
    (hgap : ∀ w ∈ ws, ∀ c ∈ w.2, isSep c = true) (hbetween : ∀ w ∈ ws.dropLast, w.2 ≠ []) :
    words isSep (ws.flatMap fun w => w.1 ++ w.2) = ws.map Prod.fst := by
  induction ws with
  | nil => rfl
  | cons w ws ih =>
    obtain ⟨⟨hne, hfree⟩, hword⟩ := List.forall_mem_cons.mp hword
    obtain ⟨hsep, hgap⟩ := List.forall_mem_cons.mp hgap
    have hrest : words isSep (ws.flatMap fun w => w.1 ++ w.2) = ws.map Prod.fst := by
      refine ih hword hgap fun v hv => hbetween v ?_
      cases ws with
      | nil => cases hv
      | cons u us => exact List.mem_cons_of_mem w hv
    rw [List.flatMap_cons, List.map_cons, ← hrest, List.append_assoc]
    cases hw : w.2 with
    | nil =>
      -- nothing but the last word has no separator behind it
      cases ws with
      | nil =>
        rw [List.flatMap_nil, List.append_nil, List.append_nil, words_eq_singleton hne hfree]
        rfl
      | cons u us => exact absurd hw (hbetween w List.mem_cons_self)
    | cons c gap =>
      rw [hw] at hsep
      obtain ⟨hc, hsep⟩ := List.forall_mem_cons.mp hsep
      rw [List.cons_append, words_append hc, words_gap hsep, words_eq_singleton hne hfree]
      rfl

/-! ### Trimmed texts -/

/-- `trimEnd` drops all blanks at the end of a text, as `List.rdropWhile` would. What Mathlib knows
    of that function is known of `trimEnd`. -/
theorem trimEnd_eq_rdropWhile (t : Text) : trimEnd t = t.rdropWhile isBlankChar := rfl

theorem trimStart_blank_append {blanks : Text} (h : isBlank blanks = true) (t : Text) :
    trimStart (blanks ++ t) = trimStart t :=
  List.dropWhile_append_of_pos (List.all_eq_true.mp h)

theorem trimStart_of_head? {t : Text} (h : ∀ c ∈ t.head?, isBlankChar c = false) :
    trimStart t = t := by
  cases t with
  | nil => rfl
  | cons c t => exact List.dropWhile_cons_of_neg (Bool.eq_false_iff.mp (h c rfl))

/-- Blanks around a text are taken off by `trim`, and nothing else if it does not start or end in
    blanks. -/
theorem trim_append {before t after : Text} (hbefore : isBlank before = true)
    (hafter : isBlank after = true) (hfirst : ∀ c ∈ t.head?, isBlankChar c = false)
    (hlast : ∀ c ∈ t.getLast?, isBlankChar c = false) : trim (before ++ (t ++ after)) = t := by
  unfold trim
  rw [trimStart_blank_append hbefore]
  cases t with
  | nil =>
    rw [List.nil_append, (isBlank_iff_trimStart after).mp hafter]
    rfl
  | cons c t =>
    have hreverse : isBlank after.reverse = true := by
      unfold isBlank at hafter ⊢
      rw [List.all_reverse, hafter]
    have hend : ∀ d ∈ (c :: t).reverse.head?, isBlankChar d = false := by
      rw [List.head?_reverse]
      exact hlast
    rw [trimStart_of_head? (t := c :: t ++ after) hfirst]
    show (trimStart (c :: t ++ after).reverse).reverse = c :: t
    rw [List.reverse_append, trimStart_blank_append hreverse, trimStart_of_head? hend,
      List.reverse_reverse]

/-- A trimmed text occurs in the text: `trim` takes off both ends only. -/
theorem trim_infix (t : Text) : trim t <:+: t := by
  have hend : trim t <:+: trimStart t := by
    unfold trim
    rw [trimEnd_eq_rdropWhile]
    exact (List.rdropWhile_prefix isBlankChar (trimStart t)).isInfix
  exact hend.trans (List.dropWhile_suffix _).isInfix

end AccessLint.Text
