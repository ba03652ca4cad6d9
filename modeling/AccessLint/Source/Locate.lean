import AccessLint.Source.TagIndex
import AccessLint.Text.Basic

namespace AccessLint.Source

/-!
# Places in a source

`lineAt` gives the line of a byte of a text. Lines are counted from one and end at line feeds.

Elements do not remember where they were read. An element is found again by its name: if a source
has as many start tags of a name as there are elements of it, they are paired in order. Otherwise
the elements are searched for, one after the other, by their canonical markup.

* `lineAt` — the line of a byte;
* `pairUp`, `searchFrom` — the two ways to find elements again;
* `locateNamed` — the offsets of the elements of one name;
* `locateAll` — the offsets of the elements of some names;
* `namesOf` — the names to go through, in one of their orders.
-/

/-! ### Lines -/

/-- The line that holds the byte `offset`. An offset inside a character belongs to its first byte,
    and one past the end to the end. -/
def lineAt : Text → (offset : Nat) → Nat
  | [], _ => 1
  | c :: cs, offset =>
    if offset < c.utf8Size then 1
    else lineAt cs (offset - c.utf8Size) + (if c = '\n' then 1 else 0)

@[simp] theorem lineAt_zero (t : Text) : lineAt t 0 = 1 := by
  cases t with
  | nil => rfl
  | cons c cs => simp [lineAt, Char.utf8Size_pos]

/-- Lines are counted from one. -/
theorem one_le_lineAt (t : Text) (offset : Nat) : 1 ≤ lineAt t offset := by
  induction t generalizing offset with
  | nil => simp [lineAt]
  | cons c cs ih =>
    unfold lineAt
    split
    · exact Nat.le_refl 1
    · exact Nat.le_trans (ih _) (Nat.le_add_right _ _)

/-! ### Elements -/

variable {α : Type}

/-- Pairs elements with offsets in order. -/
def pairUp (elements : List α) (offsets : List Nat) : List (α × Nat) := elements.zip offsets

/-- Searches for the markup of one element after the other in a text that begins at `offset`. What
    comes before the place just after the last find is not searched again. An element whose markup
    is not found is left out. -/
def searchFrom (markup : α → Text) (offset : Nat) (t : Text) : List α → List (α × Nat)
  | [] => []
  | e :: es =>
    match Text.findFirst? (markup e) t with
    | none => searchFrom markup offset t es
    | some before =>
      let found := offset + Text.utf8Size before
      let rest := t.drop before.length
      (e, found) ::
        searchFrom markup (found + Text.utf8Size (rest.take 1)) (rest.drop 1) es

/-- The offsets of the elements of one name, given in tree order. -/
def locateNamed (source : Text) (tags : List StartTag) (markup : α → Text) (name : Text)
    (elements : List α) : List (α × Nat) :=
  let offsets := offsetsOf tags name
  if offsets.length = elements.length then pairUp elements offsets
  else searchFrom markup 0 source elements

/-- The different names of some elements, in the order of their first occurrence. -/
def namesOf (name : α → Text) (elements : List α) : List Text :=
  elements.foldl (fun names e => if names.contains (name e) then names else names ++ [name e]) []

/-- The offsets of the elements with one of some names, given in tree order. -/
def locateAll (source : Text) (name markup : α → Text) (elements : List α) (names : List Text) :
    List (α × Nat) :=
  let tags := scan source
  names.flatMap fun n => locateNamed source tags markup n (elements.filter fun e => name e == n)

end AccessLint.Source
