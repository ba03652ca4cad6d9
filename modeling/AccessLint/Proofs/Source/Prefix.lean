import AccessLint.Proofs.Source.Leftmost
import AccessLint.Source.Locate

namespace AccessLint

/-!
# A source behind some text

Text in front of a source that has no `<` in it moves everything that is found in the source, by
the number of its bytes, and lets nothing else be found.

* `Source.scan_after_text` — the start tags are moved;
* `Source.searchFrom_after_text` — a search that starts in front of the text finds the same;
* `Source.locateAll_after_text` — the located elements are moved;
* `Source.lineAt_after_text` — and so are the lines, by the line feeds of the text.
-/

namespace Source

/-! ### Start tags -/

/-- A start tag some bytes further on. -/
def StartTag.moveBy (bytes : Nat) (s : StartTag) : StartTag := { s with offset := bytes + s.offset }

variable {before : Text} {bytes : Nat}

/-- Where a tag is read does not matter for what `readTag` takes, and its offset moves along. -/
theorem readTag_add (bytes offset : Nat) (t : Text) :
    readTag (bytes + offset) t =
      ((readTag offset t).1.map (StartTag.moveBy bytes), (readTag offset t).2) := by
  unfold readTag
  split
  · rfl
  · split <;> rfl

/-- A scan that starts further on finds the same tags further on (`StartTag.moveBy`). -/
theorem scanFrom_add (bytes skip offset : Nat) (t : Text) :
    scanFrom skip (bytes + offset) t = (scanFrom skip offset t).map (StartTag.moveBy bytes) := by
  induction t generalizing skip offset with
  | nil => cases skip <;> rfl
  | cons c r ih =>
    cases skip with
    | succ skip => rw [scanFrom, scanFrom, Nat.add_assoc, ih]
    | zero =>
      rw [scanFrom, scanFrom]
      split
      · rw [readTag_add]
        dsimp only
        rw [Nat.add_assoc, ih, List.map_append, Option.toList_map]
      · rw [Nat.add_assoc, ih]

/-- No start tag begins in a text without a `<`, so `scanFrom` passes over all of it. -/
theorem scanFrom_after_text (h : '<' ∉ before) (offset : Nat) (t : Text) :
    scanFrom 0 offset (before ++ t) = scanFrom 0 (offset + Text.utf8Size before) t := by
  induction before generalizing offset with
  | nil => rfl
  | cons c before ih =>
    rw [List.mem_cons, not_or] at h
    rw [List.cons_append, scanFrom, if_neg (Ne.symm h.1), ih h.2, Text.utf8Size, Nat.add_assoc]

/-- In a text without a `<` no start tag is found. -/
theorem scanFrom_of_not_mem (h : '<' ∉ before) (offset : Nat) : scanFrom 0 offset before = [] := by
  have hscan := scanFrom_after_text h offset []
  rwa [List.append_nil] at hscan

/-- **The start tags** of a source are found further on behind such text (`StartTag.moveBy`), and no
    others are. -/
theorem scan_after_text (h : '<' ∉ before) (source : Text) :
    scan (before ++ source) = (scan source).map (StartTag.moveBy (Text.utf8Size before)) := by
  unfold scan
  rw [scanFrom_after_text h, Nat.add_comm, scanFrom_add]

theorem offsetsOf_moveBy (bytes : Nat) (tags : List StartTag) (name : Text) :
    offsetsOf (tags.map (StartTag.moveBy bytes)) name = (offsetsOf tags name).map (bytes + ·) := by
  unfold offsetsOf
  rw [List.filter_map, List.map_map, List.map_map]
  rfl

/-! ### Elements -/

variable {α : Type} {markup : α → Text} {es : List α}

/-- A search that starts further on finds the same elements further on, since `searchFrom` only adds
    to its offset. -/
theorem searchFrom_add (bytes offset : Nat) (t : Text) (es : List α) :
    searchFrom markup (bytes + offset) t es =
      (searchFrom markup offset t es).map fun p => (p.1, bytes + p.2) := by
  induction es generalizing offset t with
  | nil => rfl
  | cons e es ih =>
    unfold searchFrom
    split
    · exact ih offset t
    · dsimp only
      rw [List.map_cons, ← ih, Nat.add_assoc, Nat.add_assoc]

/-- A search that starts in front of such text finds the same as one behind it, since all markup
    begins with a `<`. -/
theorem searchFrom_after_text (h : '<' ∉ before) (hmarkup : ∀ e ∈ es, (markup e).head? = some '<')
    (offset : Nat) (t : Text) :
    searchFrom markup offset (before ++ t) es =
      searchFrom markup (offset + Text.utf8Size before) t es := by
  induction es with
  | nil => rfl
  | cons e es ih =>
    have hhead := hmarkup e List.mem_cons_self
    have hfind := Text.findFirst?_after_text hhead h t
    cases ht : Text.findFirst? (markup e) t with
    | none =>
      rw [ht] at hfind
      rw [searchFrom_of_missed hfind, searchFrom_of_missed ht]
      exact ih fun e he => hmarkup e (List.mem_cons_of_mem _ he)
    | some first =>
      rw [ht, Option.map_some] at hfind
      obtain ⟨rest, hrest, hstep⟩ :=
        searchFrom_of_found ht hhead (offset + Text.utf8Size before) es
      obtain ⟨rest', hrest', hstep'⟩ := searchFrom_of_found hfind hhead offset es
      -- what is left to search is the same
      rw [hrest, List.append_assoc, List.append_cancel_left_eq, List.append_cancel_left_eq,
        List.cons.injEq] at hrest'
      have hplace : offset + Text.utf8Size (before ++ first) =
          offset + Text.utf8Size before + Text.utf8Size first := by
        rw [Text.utf8Size_append, Nat.add_assoc]
      rw [hstep, hstep', hrest'.2, hplace]

variable {source : Text}

/-- **The elements of a name** are located further on behind such text. The number of tags is the
    same, so `locateNamed` finds them in the same way. -/
theorem locateNamed_after_text (h : '<' ∉ before) (hmarkup : ∀ e ∈ es, (markup e).head? = some '<')
    (name : Text) :
    locateNamed (before ++ source) (scan (before ++ source)) markup name es =
      (locateNamed source (scan source) markup name es).map
        fun p => (p.1, Text.utf8Size before + p.2) := by
  unfold locateNamed
  dsimp only
  rw [scan_after_text h, offsetsOf_moveBy, List.length_map]
  split
  · unfold pairUp
    rw [List.zip_map_right]
    rfl
  · rw [searchFrom_after_text h hmarkup, Nat.add_comm, searchFrom_add]

/-- So are the elements of all names that `locateAll` goes through. -/
theorem locateAll_after_text (h : '<' ∉ before) (name : α → Text)
    (hmarkup : ∀ e ∈ es, (markup e).head? = some '<') (names : List Text) :
    locateAll (before ++ source) name markup es names =
      (locateAll source name markup es names).map fun p => (p.1, Text.utf8Size before + p.2) := by
  unfold locateAll
  dsimp only
  rw [List.map_flatMap]
  refine List.flatMap_congr fun n _ => ?_
  exact locateNamed_after_text h (fun e he => hmarkup e (List.mem_of_mem_filter he)) n

/-! ### Lines -/

/-- **The lines** behind a text are as many further on as it has line feeds, whatever else is in
    it. -/
theorem lineAt_after_text (before t : Text) (offset : Nat) :
    lineAt (before ++ t) (Text.utf8Size before + offset) = lineAt t offset + before.count '\n' := by
  induction before with
  | nil => simp [Text.utf8Size]
  | cons c before ih =>
    have hbehind : ¬ Text.utf8Size (c :: before) + offset < c.utf8Size := by
      rw [Text.utf8Size]
      omega
    have hrest : Text.utf8Size (c :: before) + offset - c.utf8Size =
        Text.utf8Size before + offset := by
      rw [Text.utf8Size]
      omega
    rw [List.cons_append, lineAt, if_neg hbehind, hrest, ih, List.count_cons, Nat.add_assoc]
    simp only [beq_iff_eq]

end Source

end AccessLint
