import AccessLint.Html.Parse
import AccessLint.Proofs.Html.Builder.Table

namespace AccessLint.Html

/-!
# Building a tree is sound

* `Builder.Sound.step` — one look at a token;
* `Builder.Sound.accept` — a token, looked at as often as needed;
* `Builder.Sound.run` — all tokens of a text;
* `parse_linked` — the links of every parsed tree agree.
-/

namespace Builder

/-- What an end tag in foreign content leaves open (`outsideForeign?`) was open before. -/
theorem mem_of_outsideForeign? {name : Text} {first : Bool} {o : Open} {os rest : List Open}
    (h : outsideForeign? name first os = some rest) (ho : o ∈ rest) : o ∈ os := by
  induction os generalizing first with
  | nil => exact absurd h (by simp [outsideForeign?])
  | cons a os ih =>
    unfold outsideForeign? at h
    split at h
    · exact absurd h (by simp)
    · split at h
      · rw [Option.some.inj h]
        exact List.mem_cons_of_mem _ ho
      · exact List.mem_cons_of_mem _ (ih h)

namespace Sound

variable {S : Stock} {base : Tree} {b : Builder}

/-! ### One look -/

/-- `inText` adds text to an element that holds text and the end tag closes the element. -/
theorem inText (h : Sound S base b) (t : Token) : (b.inText t).Sound S base := by
  cases t with
  | text t => exact h.insertText t
  | endTag t => exact h.pop
  | eof => exact h.pop
  | _ => exact h

/-- A look in the current mode keeps a builder sound: one case for each `Mode`, by the lemma of the
    mode. -/
theorem stepInMode (h : Sound S base b) {t : Token} (ht : S.Allows t) :
    (b.stepInMode t).Sound S base := by
  unfold Builder.stepInMode
  -- the modes in their order
  split
  · exact h.inInitial t
  · exact h.inBeforeHtml ht
  · exact h.inBeforeHead ht
  · exact h.inHead ht
  · exact h.inAfterHead ht
  · exact h.inBody ht
  · exact h.inText t
  · exact h.inTable ht
  · exact h.inTableText t
  · exact h.inCaption ht
  · exact h.inColumnGroup ht
  · exact h.inTableBody ht
  · exact h.inRow ht
  · exact h.inCell ht
  · exact h.inSelect ht
  · exact h.inSelectInTable ht
  · exact h.inTemplate ht
  · exact h.inAfterBody t
  · exact h.inFrameset ht
  · exact h.inAfterFrameset ht
  · exact h.inAfterAfterBody t
  · exact h.inAfterAfterFrameset ht

/-- A look at a token of foreign content keeps a builder sound, also where it ends that content. -/
theorem stepInForeign (h : Sound S base b) {t : Token} (ht : S.Allows t) :
    (b.stepInForeign t).Sound S base := by
  cases t with
  | null => exact h.insertText _
  | text t => exact insertText (ite h h.keepsBody) t
  | comment t => exact h.insertComment t
  | doctype d => exact h
  | eof => exact h
  | startTag t => exact stepIte (h.leaveForeign.stepInMode ht) (h.startForeign ht)
  | endTag t =>
    refine stepIte (h.leaveForeign.stepInMode ht) ?_
    split
    · next hos => exact h.restack fun o ho => mem_of_outsideForeign? hos ho
    · exact h.stepInMode ht

/-- **One look at a token** keeps a builder sound, in foreign content and elsewhere. -/
theorem step (h : Sound S base b) {t : Token} (ht : S.Allows t) : (b.step t).Sound S base :=
  stepIte (h.stepInForeign ht) (h.stepInMode ht)

/-! ### Tokens -/

/-- So does looking as often as the token asks for it, by induction on the fuel. -/
theorem process (h : Sound S base b) {t : Token} (ht : S.Allows t) (fuel : Nat) :
    Sound S base (b.process t fuel) := by
  induction fuel generalizing b with
  | zero => exact h
  | succ fuel ih =>
    have hstep := h.step ht
    unfold Builder.process
    split
    · next heq =>
      rw [heq] at hstep
      exact hstep
    · next heq =>
      rw [heq] at hstep
      exact ih hstep

/-- `settle` chooses the fuel for one token from the open elements; soundness does not depend on
    it. -/
theorem settle (h : Sound S base b) {t : Token} (ht : S.Allows t) : Sound S base (b.settle t) :=
  h.process ht _

/-- `acceptText` divides a text into space and the rest, and each part is a token of its own. -/
theorem acceptText (h : Sound S base b) (fuel : Nat) (t : Text) :
    Sound S base (b.acceptText fuel t) := by
  have htext : ∀ t, S.Allows (.text t) := fun _ => trivial
  induction fuel generalizing b t with
  | zero => exact h
  | succ fuel ih =>
    cases t with
    | nil => exact h
    -- space and other text may be told apart, and are dealt with run by run then
    | cons c r => exact ite (ih (h.settle (htext _)) _) (h.settle (htext _))

/-- The type of a page is noted, and changes no node. -/
theorem acceptDoctype (h : Sound S base b) (d : Doctype) : Sound S base (b.acceptDoctype d) := by
  refine ite ?_ h
  have hnew := h.createOther (c := .doctype d.name) (by simp)
  refine hnew.append ?_ ?_ h.nextId_ne_root
  · exact hnew.linked.root_lt
  · exact Nat.lt_of_lt_of_eq (Nat.lt_succ_self _) (Tree.size_create _ _).symm

/-- **One token** keeps a builder sound, if the stock allows it. -/
theorem accept (h : Sound S base b) {t : Token} (ht : S.Allows t) : Sound S base (b.accept t) := by
  have hread : Sound S base { b with skipsNewline := false } := h
  cases t with
  | doctype d => exact hread.acceptDoctype d
  | text t => exact hread.acceptText _ _
  | startTag t => exact hread.settle ht
  | endTag t => exact hread.settle ht
  | comment t => exact hread.settle ht
  | null => exact hread.settle ht
  | eof => exact hread.settle ht

/-- So do the tokens at the start of a text, one after the other. -/
theorem foldl_accept (h : Sound S base b) {ts : List Token} (hts : ∀ t ∈ ts, S.Allows t) :
    Sound S base (ts.foldl Builder.accept b) := by
  induction ts generalizing b with
  | nil => exact h
  | cons t ts ih =>
    exact ih (h.accept (hts t List.mem_cons_self)) fun t' ht' => hts t' (List.mem_cons_of_mem _ ht')

end Sound

end Builder

/-! ### Texts -/

/-- The texts of a kind are read as tokens of a stock, and what follows a token is of the kind
    again. -/
def Stock.Covers (S : Stock) (kind : Text → Prop) : Prop :=
  ∀ mode inForeign t tokens rest, kind t → nextTokens? mode inForeign t = some (tokens, rest) →
    (∀ token ∈ tokens, S.Allows token) ∧ kind rest

/-- **A run over a text** keeps a builder sound, by induction on the fuel: `Stock.Covers` speaks of
    the next tokens and of the text behind them. -/
theorem Builder.Sound.run {S : Stock} {base : Tree} {b : Builder} (h : Sound S base b)
    {kind : Text → Prop} (hcovers : S.Covers kind) (fuel : Nat) {t : Text} (ht : kind t) :
    Sound S base (b.run fuel t) := by
  induction fuel generalizing b t with
  | zero => exact h
  | succ fuel ih =>
    unfold Builder.run
    split
    · exact h
    · next tokens rest hnext =>
      obtain ⟨htokens, hrest⟩ := hcovers _ _ t tokens rest ht hnext
      exact ih (h.foldl_accept htokens) hrest

/-- The stock of all tags. -/
def Stock.all : Stock := ⟨fun _ => True, fun _ _ => trivial, fun _ _ => trivial⟩

/-- **The links of every parsed tree agree.** With the stock of all tags (`Stock.all`) nothing is
    asked of the source. -/
theorem parse_linked (source : Text) : (parse source).Linked := by
  have hallows : ∀ t, Stock.all.Allows t := fun t => by cases t <;> trivial
  -- about links nothing needs to be known of the tags
  have hcovers : Stock.all.Covers fun _ => True :=
    fun _ _ _ _ _ _ _ => ⟨fun token _ => hallows token, trivial⟩
  have hrun := (Builder.Sound.start Stock.all).run hcovers ((prepare source).length + 1)
    (t := prepare source) trivial
  exact (hrun.accept (hallows .eof)).linked

end AccessLint.Html
