import AccessLint.Proofs.Json.Lexeme
import AccessLint.Proofs.Json.Relaxed

namespace AccessLint.Json.Relaxed

/-!
# Texts of a value

A value has many texts: between its tokens there may be blanks and comments, and a comma may follow
the last item or member. All of them are read as that value, and what `write` and `pretty` give
are two of them.

* `Layout` — the texts of a value, and of the rest of an array or an object;
* `Reads` — what the reader makes of such a text;
* `reads_of_layout` — every text of a value is read as that value;
* `read_of_layout` — the same for a whole text;
* `layout_write`, `layout_pretty` — a value on one line and over several lines.
-/

/-! ### Grammar -/

/-- A value, or what is left of an array or an object: the items or members still to come, at its
    start or after a comma, or else after one of them. -/
inductive Piece where
  | value (v : Json)
  | items (vs : List Json)
  | afterItem (vs : List Json)
  | members (ms : List (Text × Json))
  | afterMember (ms : List (Text × Json))

/-- The texts of a value, and the texts of the rest of an array or an object up to its closing
    bracket. Strings, numbers and keywords stand as they are written; a number fits a word, and no
    object repeats a key. -/
inductive Layout : Piece → Text → Prop
  | null : Layout (.value .null) "null"
  | bool (b : Bool) : Layout (.value (.bool b)) (write (.bool b))
  | int {n : Int} : FitsWord (.int n) → Layout (.value (.num (.int n))) (Text.ofInt n)
  | str (s : Text) : Layout (.value (.str s)) (writeString s)
  | arr {vs : List Json} {t : Text} : Layout (.items vs) t → Layout (.value (.arr vs)) ('[' :: t)
  | obj {ms : List (Text × Json)} {t : Text} : (ms.map Prod.fst).Nodup → Layout (.members ms) t →
      Layout (.value (.obj ms)) ('\x7b' :: t)
  | noItem {a : Text} : Gap a → Layout (.items []) (a ++ [']'])
  | item {a t u : Text} {v : Json} {vs : List Json} : Gap a → Layout (.value v) t →
      Layout (.afterItem vs) u → Layout (.items (v :: vs)) (a ++ (t ++ u))
  | lastItem {a : Text} : Gap a → Layout (.afterItem []) (a ++ [']'])
  | nextItem {a t : Text} {vs : List Json} : Gap a → Layout (.items vs) t →
      Layout (.afterItem vs) (a ++ ',' :: t)
  | noMember {a : Text} : Gap a → Layout (.members []) (a ++ ['\x7d'])
  | member {a b c t u key : Text} {v : Json} {ms : List (Text × Json)} : Gap a → Gap b → Gap c →
      Layout (.value v) t → Layout (.afterMember ms) u →
      Layout (.members ((key, v) :: ms)) (a ++ (writeString key ++ (b ++ ':' :: (c ++ (t ++ u)))))
  | lastMember {a : Text} : Gap a → Layout (.afterMember []) (a ++ ['\x7d'])
  | nextMember {a t : Text} {ms : List (Text × Json)} : Gap a → Layout (.members ms) t →
      Layout (.afterMember ms) (a ++ ',' :: t)

/-! ### Reading -/

/-- What the reader makes of the text of a piece, with `rest` after it. -/
def Reads (fuel : Nat) (rest : Text) : Piece → Text → Prop
  | .value v, t => EndsScalar rest → ∀ a, Gap a →
      ∃ lex, Lexeme.next? (a ++ (t ++ rest)) = .ok (some lex) ∧ readValue fuel lex = .ok (v, rest)
  | .items vs, t => ∀ opening,
      (Lexeme.next? (t ++ rest) >>= readItems fuel opening) = .ok (vs, rest)
  | .afterItem vs, t => ∀ opening,
      (Lexeme.next? (t ++ rest) >>= skipComma >>= readItems fuel opening) = .ok (vs, rest)
  | .members ms, t => ∀ opening,
      (Lexeme.next? (t ++ rest) >>= readMembers fuel opening) = .ok (ms, rest)
  | .afterMember ms, t => ∀ opening,
      (Lexeme.next? (t ++ rest) >>= skipComma >>= readMembers fuel opening) = .ok (ms, rest)

variable {fuel : Nat} {opening a t u rest key : Text} {lex : Lexeme} {v : Json} {vs : List Json}
  {ms : List (Text × Json)}

/-- The characters that may follow a number or a keyword in a text end it: `EndsScalar` holds of
    every text that begins with one. -/
theorem endsScalar_cons {c : Char} (hc : c ∈ ['/', ',', ']', '\x7d']) (r : Text) :
    EndsScalar (c :: r) := by
  rintro d ⟨⟩
  exact List.mem_append_right _ hc

/-- A number or a keyword ends where a `Gap` starts, be it a blank or a comment. -/
theorem endsScalar_gap (ha : Gap a) {r : Text} (hr : EndsScalar r) : EndsScalar (a ++ r) := by
  cases ha with
  | none => exact hr
  | space hspace _ =>
    rintro d ⟨⟩
    exact List.mem_append_left _ hspace
  | line => exact endsScalar_cons (by decide) _
  | block => exact endsScalar_cons (by decide) _

/-- What follows an item ends it: a gap, a comma or the bracket that closes the array. -/
theorem endsScalar_afterItem (h : Layout (.afterItem vs) t) (rest : Text) :
    EndsScalar (t ++ rest) := by
  cases h with
  | lastItem ha =>
    rw [List.append_assoc]
    exact endsScalar_gap ha (endsScalar_cons (by decide) _)
  | nextItem ha =>
    rw [List.append_assoc]
    exact endsScalar_gap ha (endsScalar_cons (by decide) _)

/-- What follows a member ends it, with a brace in place of the bracket. -/
theorem endsScalar_afterMember (h : Layout (.afterMember ms) t) (rest : Text) :
    EndsScalar (t ++ rest) := by
  cases h with
  | lastMember ha =>
    rw [List.append_assoc]
    exact endsScalar_gap ha (endsScalar_cons (by decide) _)
  | nextMember ha =>
    rw [List.append_assoc]
    exact endsScalar_gap ha (endsScalar_cons (by decide) _)

/-- An item is read, and then those after it: one step of `readItems`, with what the two parts give
    as hypotheses. -/
theorem readItems_cons {r : Text} (hvalue : readValue fuel lex = .ok (v, r))
    (hlater : (Lexeme.next? r >>= skipComma >>= readItems fuel opening) = .ok (vs, rest)) :
    readItems (fuel + 1) opening (some lex) = .ok (v :: vs, rest) := by
  obtain ⟨token, start, after⟩ := lex
  obtain ⟨next, hnext, hlater⟩ := exists_of_bind_eq_ok hlater
  obtain ⟨first, hfirst, hskip⟩ := exists_of_bind_eq_ok hnext
  rw [readItems]
  split
  · next htoken =>
    -- a closing bracket is no value
    cases htoken
    cases fuel <;> cases hvalue
  · simp only [hvalue, hfirst, hskip, hlater, bind, Except.bind, pure, Except.pure]

/-- `readMembers` takes a member, and then those after it: the key has been read already, the colon
    and the value follow. -/
theorem readMembers_cons {start afterKey afterColon colon r : Text}
    (hcolon : Lexeme.next? afterKey = .ok (some ⟨.colon, colon, afterColon⟩))
    (hfirst : Lexeme.next? afterColon = .ok (some lex)) (hvalue : readValue fuel lex = .ok (v, r))
    (hlater : (Lexeme.next? r >>= skipComma >>= readMembers fuel opening) = .ok (ms, rest)) :
    readMembers (fuel + 1) opening (some ⟨.str key, start, afterKey⟩) =
      .ok ((key, v) :: ms, rest) := by
  obtain ⟨next, hnext, hlater⟩ := exists_of_bind_eq_ok hlater
  obtain ⟨first, hnext, hskip⟩ := exists_of_bind_eq_ok hnext
  simp only [readMembers, Token.key?, hcolon, hfirst, hvalue, hnext, hskip, hlater, bind,
    Except.bind, pure, Except.pure]

/-- No `Piece` has an empty text, so every recursive step of the reader has less text left. -/
theorem length_pos_of_layout {p : Piece} (h : Layout p t) : 0 < t.length := by
  induction h with
  | bool b => cases b <;> decide
  | @int n _ =>
    obtain ⟨c, r, hr, -⟩ := exists_ofInt_eq_cons n
    rw [hr]
    exact Nat.succ_pos _
  | null => decide
  | str => exact Nat.succ_pos _
  | arr => exact Nat.succ_pos _
  | obj => exact Nat.succ_pos _
  | _ =>
    simp only [List.length_append, List.length_cons]
    omega

/-- A token that is a value whatever follows it is read by `readValue` with any fuel. -/
theorem reads_scalar {token : Token} (htoken : ∀ a, Gap a → EndsScalar rest →
      FirstToken (a ++ (t ++ rest)) token rest)
    (hvalue : ∀ start, readValue fuel ⟨token, start, rest⟩ = .ok (v, rest)) :
    Reads fuel rest (.value v) t := by
  intro hrest a ha
  obtain ⟨start, hnext⟩ := htoken a ha hrest
  exact ⟨_, hnext, hvalue start⟩

/-- An array is read if its items are read behind the bracket. -/
theorem reads_arr (h : Reads fuel rest (.items vs) t) :
    Reads (fuel + 1) rest (.value (.arr vs)) ('[' :: t) := by
  intro _ a ha
  obtain ⟨start, hnext⟩ := FirstToken.of_lexeme (c := '[') (r := t ++ rest) ha rfl (by decide) rfl
  obtain ⟨first, hfirst, hitems⟩ := exists_of_bind_eq_ok (h start)
  refine ⟨_, hnext, ?_⟩
  simp only [readValue, hfirst, hitems, bind, Except.bind, pure, Except.pure]

/-- An object is read if its members are read behind the brace. A repeated key would be lost in
    `Json.object`, so there must be none. -/
theorem reads_obj (hnodup : (ms.map Prod.fst).Nodup) (h : Reads fuel rest (.members ms) t) :
    Reads (fuel + 1) rest (.value (.obj ms)) ('\x7b' :: t) := by
  intro _ a ha
  obtain ⟨start, hnext⟩ := FirstToken.of_lexeme (c := '\x7b') (r := t ++ rest) ha rfl (by decide) rfl
  obtain ⟨first, hfirst, hmembers⟩ := exists_of_bind_eq_ok (h start)
  refine ⟨_, hnext, ?_⟩
  simp only [readValue, hfirst, hmembers, object_eq_of_nodup hnodup, bind, Except.bind, pure,
    Except.pure]

/-- `skipComma` skips a comma, and the first item or member after it is read; nothing need follow,
    as in a relaxed text with a comma at the end. -/
theorem next?_comma (ha : Gap a) (t : Text) :
    (Lexeme.next? (a ++ ',' :: t) >>= skipComma) = Lexeme.next? t := by
  obtain ⟨start, hnext⟩ := FirstToken.of_lexeme (c := ',') (r := t) ha rfl (by decide) rfl
  rw [hnext]
  rfl

/-- The bracket that closes an array ends its items, at the start of the array or after an item. -/
theorem reads_endOfItems (ha : Gap a) :
    Reads (fuel + 1) rest (.items []) (a ++ [']']) ∧
      Reads (fuel + 1) rest (.afterItem []) (a ++ [']']) := by
  obtain ⟨start, hnext⟩ := FirstToken.of_lexeme (c := ']') (r := rest) ha rfl (by decide) rfl
  simp only [Reads, List.append_assoc, List.singleton_append, hnext]
  exact ⟨fun _ => rfl, fun _ => rfl⟩

/-- The brace that closes an object ends its members, in the same two places. -/
theorem reads_endOfMembers (ha : Gap a) :
    Reads (fuel + 1) rest (.members []) (a ++ ['\x7d']) ∧
      Reads (fuel + 1) rest (.afterMember []) (a ++ ['\x7d']) := by
  obtain ⟨start, hnext⟩ := FirstToken.of_lexeme (c := '\x7d') (r := rest) ha rfl (by decide) rfl
  simp only [Reads, List.append_assoc, List.singleton_append, hnext]
  exact ⟨fun _ => rfl, fun _ => rfl⟩

/-- An item is read with what follows it, by `readItems_cons`. -/
theorem reads_item (ha : Gap a) (hvalue : Reads fuel (u ++ rest) (.value v) t)
    (hend : EndsScalar (u ++ rest)) (hlater : Reads fuel rest (.afterItem vs) u) :
    Reads (fuel + 1) rest (.items (v :: vs)) (a ++ (t ++ u)) := by
  intro opening
  obtain ⟨lex, hnext, hread⟩ := hvalue hend a ha
  rw [List.append_assoc, List.append_assoc, hnext]
  exact readItems_cons hread (hlater opening)

/-- A member is read with its key and its colon, and gaps around them, by `readMembers_cons`. -/
theorem reads_member {b c : Text} (ha : Gap a) (hb : Gap b) (hc : Gap c)
    (hvalue : Reads fuel (u ++ rest) (.value v) t) (hend : EndsScalar (u ++ rest))
    (hlater : Reads fuel rest (.afterMember ms) u) :
    Reads (fuel + 1) rest (.members ((key, v) :: ms))
      (a ++ (writeString key ++ (b ++ ':' :: (c ++ (t ++ u))))) := by
  intro opening
  obtain ⟨start, hkey⟩ := firstToken_writeString ha key (b ++ ':' :: (c ++ (t ++ (u ++ rest))))
  obtain ⟨colon, hcolon⟩ := FirstToken.of_lexeme (c := ':') (r := c ++ (t ++ (u ++ rest))) hb rfl
    (by decide) rfl
  obtain ⟨lex, hfirst, hread⟩ := hvalue hend c hc
  simp only [List.append_assoc, List.cons_append]
  rw [hkey]
  exact readMembers_cons hcolon hfirst hread (hlater opening)

/-- **Every text of a piece is read**, if there is fuel for each of its characters. The induction is
    on the layout, with one case for each way of writing a piece. -/
theorem reads_of_layout {p : Piece} (h : Layout p t) (hfuel : t.length ≤ fuel) (rest : Text) :
    Reads (fuel + 1) rest p t := by
  induction h generalizing fuel rest with
  | null => exact reads_scalar (fun _ ha hrest => firstToken_null ha hrest) fun _ => rfl
  | bool b => exact reads_scalar (fun _ ha hrest => firstToken_bool ha b hrest) fun _ => rfl
  | @int n hn =>
    refine reads_scalar (fun _ ha hrest => firstToken_ofInt ha n hrest) fun _ => ?_
    rw [readValue, number_ofInt hn]
  | str s => exact reads_scalar (fun _ ha _ => firstToken_writeString ha s rest) fun _ => rfl
  | arr _ ih =>
    rw [List.length_cons] at hfuel
    obtain ⟨fuel, rfl⟩ : ∃ f, fuel = f + 1 := ⟨fuel - 1, by omega⟩
    exact reads_arr (ih (by omega) rest)
  | obj hnodup _ ih =>
    rw [List.length_cons] at hfuel
    obtain ⟨fuel, rfl⟩ : ∃ f, fuel = f + 1 := ⟨fuel - 1, by omega⟩
    exact reads_obj hnodup (ih (by omega) rest)
  | item ha hvalue hlater ihvalue ihlater =>
    -- each of the two parts leaves a character for the other one
    simp only [List.length_append] at hfuel
    have hpos := length_pos_of_layout hvalue
    have hpos' := length_pos_of_layout hlater
    obtain ⟨fuel, rfl⟩ : ∃ f, fuel = f + 1 := ⟨fuel - 1, by omega⟩
    exact reads_item ha (ihvalue (by omega) _) (endsScalar_afterItem hlater rest)
      (ihlater (by omega) rest)
  | member ha hb hc hvalue hlater ihvalue ihlater =>
    simp only [List.length_append, List.length_cons] at hfuel
    have hpos := length_pos_of_layout hvalue
    have hpos' := length_pos_of_layout hlater
    obtain ⟨fuel, rfl⟩ : ∃ f, fuel = f + 1 := ⟨fuel - 1, by omega⟩
    exact reads_member ha hb hc (ihvalue (by omega) _) (endsScalar_afterMember hlater rest)
      (ihlater (by omega) rest)
  | noItem ha => exact (reads_endOfItems ha).1
  | lastItem ha => exact (reads_endOfItems ha).2
  | noMember ha => exact (reads_endOfMembers ha).1
  | lastMember ha => exact (reads_endOfMembers ha).2
  | nextItem ha _ ih =>
    simp only [List.length_append, List.length_cons] at hfuel
    intro opening
    rw [List.append_assoc, List.cons_append, next?_comma ha]
    exact ih (by omega) rest opening
  | nextMember ha _ ih =>
    simp only [List.length_append, List.length_cons] at hfuel
    intro opening
    rw [List.append_assoc, List.cons_append, next?_comma ha]
    exact ih (by omega) rest opening

/-- **Every text of a value is read** by `Relaxed.read` as that value, with blanks and comments
    around it. -/
theorem read_of_layout {b : Text} (ha : Gap a) (h : Layout (.value v) t) (hb : Gap b) :
    read (a ++ (t ++ b)) = .ok (some v) := by
  have hend : EndsScalar b := by
    simpa using endsScalar_gap hb (r := []) (by simp [EndsScalar])
  have hfuel : t.length ≤ 2 * (a ++ (t ++ b)).length + 1 := by
    simp only [List.length_append]
    omega
  obtain ⟨lex, hnext, hread⟩ := reads_of_layout h hfuel b hend a ha
  unfold read
  rw [hnext]
  show (readValue _ lex >>= _) = _
  rw [hread]
  show (Lexeme.next? b >>= _) = _
  rw [Lexeme.next?_gap_end hb]
  rfl

/-! ### Writing -/

/-- Items that `writeItems` puts on one line, each one by a layout of its own, are the rest of an
    array. -/
theorem layout_writeItems {items : List Json} (h : ∀ v ∈ items, Layout (.value v) (write v)) :
    Layout (.items items) (writeItems items ++ [']']) := by
  induction items with
  | nil => exact .noItem .none
  | cons v items ih =>
    have hv := h v List.mem_cons_self
    have hitems := ih fun w hw => h w (List.mem_cons_of_mem _ hw)
    cases items with
    | nil => exact .item (a := []) .none hv (.lastItem .none)
    | cons w items =>
      rw [writeItems, List.append_assoc]
      exact .item (a := []) .none hv (.nextItem (a := []) .none hitems)

/-- Members that `writeMembers` puts on one line are the rest of an object, with their keys in
    quotes. -/
theorem layout_writeMembers {members : List (Text × Json)}
    (h : ∀ m ∈ members, Layout (.value m.2) (write m.2)) :
    Layout (.members members) (writeMembers members ++ ['\x7d']) := by
  induction members with
  | nil => exact .noMember .none
  | cons m members ih =>
    obtain ⟨key, v⟩ := m
    have hv : Layout (.value v) (write v) := h (key, v) List.mem_cons_self
    have hmembers := ih fun m hm => h m (List.mem_cons_of_mem _ hm)
    cases members with
    | nil =>
      rw [writeMembers, List.append_assoc]
      exact .member (a := []) (b := []) (c := []) .none .none .none hv (.lastMember .none)
    | cons m members =>
      rw [writeMembers, List.append_assoc, List.append_assoc]
      exact .member (a := []) (b := []) (c := []) .none .none .none hv
        (.nextMember (a := []) .none hmembers)

/-- **A value on one line.** What `Json.write` makes of a proper value is one of its texts, without
    any gap. -/
theorem layout_write (h : Proper FitsWord v) : Layout (.value v) (write v) := by
  induction h with
  | null => exact .null
  | bool b => exact .bool b
  | @num n hn =>
    cases n with
    | real x => exact hn.elim
    | int n => exact .int hn
  | str s => exact .str s
  | arr _ ih => exact .arr (layout_writeItems ih)
  | obj hnodup _ ih => exact .obj hnodup (layout_writeMembers ih)

theorem gap_newline (level : Nat) : Gap (newline level) := by
  have hblanks : ∀ n, Gap (List.replicate n ' ') := by
    intro n
    induction n with
    | zero => exact .none
    | succ n ih => exact .space (by decide) ih
  exact .space (by decide) (hblanks (2 * level))

/-- Items that `prettyItems` puts on lines of their own are the rest of an array, whose bracket
    stands on a line less indented. -/
theorem layout_prettyItems {items : List Json} (level outer : Nat) (hne : items ≠ [])
    (h : ∀ v ∈ items, Layout (.value v) (prettyAt level v)) :
    Layout (.items items) (prettyItems level items ++ (newline outer ++ [']'])) := by
  induction items with
  | nil => exact absurd rfl hne
  | cons v items ih =>
    have hv := h v List.mem_cons_self
    cases items with
    | nil =>
      rw [prettyItems, List.append_assoc]
      exact .item (gap_newline level) hv (.lastItem (gap_newline outer))
    | cons w items =>
      have hitems := ih (List.cons_ne_nil _ _) fun w hw => h w (List.mem_cons_of_mem _ hw)
      simp only [prettyItems, List.append_assoc, List.cons_append]
      exact .item (gap_newline level) hv (.nextItem (a := []) .none hitems)

/-- Members that `prettyMembers` puts on lines of their own are the rest of an object, with a space
    behind each colon. -/
theorem layout_prettyMembers {members : List (Text × Json)} (level outer : Nat) (hne : members ≠ [])
    (h : ∀ m ∈ members, Layout (.value m.2) (prettyAt level m.2)) :
    Layout (.members members) (prettyMembers level members ++ (newline outer ++ ['\x7d'])) := by
  have hblank : Gap [' '] := .space (by decide) .none
  induction members with
  | nil => exact absurd rfl hne
  | cons m members ih =>
    obtain ⟨key, v⟩ := m
    have hv : Layout (.value v) (prettyAt level v) := h (key, v) List.mem_cons_self
    cases members with
    | nil =>
      simp only [prettyMembers, List.append_assoc]
      exact .member (b := []) (gap_newline level) .none hblank hv (.lastMember (gap_newline outer))
    | cons m members =>
      have hmembers := ih (List.cons_ne_nil _ _) fun m hm => h m (List.mem_cons_of_mem _ hm)
      simp only [prettyMembers, List.append_assoc, List.cons_append]
      exact .member (b := []) (gap_newline level) .none hblank hv
        (.nextMember (a := []) .none hmembers)

/-- A value that `prettyAt` writes over several lines, inside some arrays and objects, is one of its
    texts: the level only decides how long the gaps are. -/
theorem layout_prettyAt (h : Proper FitsWord v) (level : Nat) :
    Layout (.value v) (prettyAt level v) := by
  induction h generalizing level with
  | null => exact .null
  | bool b => cases b <;> exact .bool _
  | @num n hn =>
    cases n with
    | real x => exact hn.elim
    | int n => exact .int hn
  | str s => exact .str s
  | @arr items _ ih =>
    cases items with
    -- an empty array has its brackets on one line, as an empty object has
    | nil => exact .arr (.noItem .none)
    | cons v items =>
      rw [prettyAt, List.append_assoc]
      exact .arr (layout_prettyItems _ _ (List.cons_ne_nil _ _) fun w hw => ih w hw _)
  | @obj members hnodup _ ih =>
    cases members with
    | nil => exact .obj hnodup (.noMember .none)
    | cons m members =>
      rw [prettyAt, List.append_assoc]
      exact .obj hnodup (layout_prettyMembers _ _ (List.cons_ne_nil _ _) fun m hm => ih m hm _)

/-- **A value over several lines**, as `Json.pretty` writes it, is one of its texts. -/
theorem layout_pretty (h : Proper FitsWord v) : Layout (.value v) (pretty v) := layout_prettyAt h 0

end AccessLint.Json.Relaxed
