import AccessLint.Web.Fetch

namespace AccessLint.Web

/-!
# What a page is loaded from

A page is loaded from the response that ends a chain of redirections. Without such a response the
request has failed.

* `Answered` — a response ends the chain that starts with a request;
* `Answers` — a response ends the chain that starts at an address in text form;
* `Response.exists_page_error_iff` — when a response has no page;
* `fetch_of_answers` — the page is that of the response;
* `fetch_of_unanswered` — without a response there is a failure.
-/

/-- A response ends the chain of at most `n` redirections that starts with a request, made after
    earlier ones. All responses on the way can be understood, and lead to addresses of the web. -/
inductive Answered (net : Network) : (n : Nat) → (earlier : List Address) → Address →
    Response → Prop
  | here {n earlier a r} : net earlier a = some r → r.isReadable = true →
      r.redirection? a = none → Answered net n earlier a r
  | redirected {n earlier a b r r'} : net earlier a = some r → r.isReadable = true →
      r.redirection? a = some (.address b) → b.scheme.isWeb = true →
      Answered net n (earlier ++ [a]) b r' → Answered net (n + 1) earlier a r'

/-- A response ends the chain of redirections that starts at an address in text form. -/
def Answers (net : Network) (url : Text) (r : Response) : Prop :=
  ∃ a, Address.ofText? url = some a ∧ a.isNameable = true ∧ Answered net maxRedirections [] a r

variable {net : Network} {start a : Address} {n : Nat} {earlier : List Address} {r : Response}

/-- A response has no page (`Response.page`) if it is no success, or if it is one whose body does
    not come to its end. -/
theorem Response.exists_page_error_iff : (∃ failure, r.page = .error failure) ↔
    isSuccess r.status = false ∨ (isSuccess r.status = true ∧ r.text? = none) := by
  unfold page
  cases isSuccess r.status with
  | false => simp
  | true => cases r.text? <;> simp

/-- If `Answered` gives the response at the end of the chain, `visit` has the page of that
    response. -/
theorem visit_of_answered (h : Answered net n earlier a r) :
    (visit net start n earlier a).result = r.page := by
  induction h with
  | here hr hreadable hlast =>
    unfold visit
    simp [hr, hreadable, hlast]
  | redirected hr hreadable hnext hweb _ ih =>
    unfold visit
    simpa [hr, hreadable, hnext, hweb] using ih

/-- A chain without an end fails: `visit` gives a page only where `Answered` gives a response. -/
theorem visit_of_unanswered (h : ∀ r, ¬ Answered net n earlier a r) :
    ∃ failure, (visit net start n earlier a).result = .error failure := by
  fun_induction visit net start n earlier a with
  | case1 => exact ⟨_, rfl⟩
  | case2 => exact ⟨_, rfl⟩
  | case3 n earlier a r hr requests hreadable hlast =>
    exact absurd (Answered.here hr (by simpa using hreadable) hlast) (h r)
  | case4 => exact ⟨_, rfl⟩
  | case5 earlier a r hr requests hreadable n b hweb hnext ih =>
    -- the rest of the chain has no end either
    exact ih fun r' hr' => h r' (.redirected hr (by simpa using hreadable) hnext hweb hr')
  | case6 => exact ⟨_, rfl⟩
  | case7 => exact ⟨_, rfl⟩

variable {url : Text}

/-- **A page is loaded from the response** at the end of the redirections, if that response
    succeeded and its body is complete (`Response.page`). -/
theorem fetch_of_answers (h : Answers net url r) : (fetch net url).result = r.page := by
  obtain ⟨a, ha, hnameable, hanswered⟩ := h
  unfold fetch
  simp [ha, hnameable, visit_of_answered hanswered]

/-- **Without such a response** `fetch` fails: for an address that cannot be read, a request without
    an answer, or a chain that is too long or leads out of the web. -/
theorem fetch_of_unanswered (h : ∀ r, ¬ Answers net url r) :
    ∃ failure, (fetch net url).result = .error failure := by
  unfold fetch
  cases ha : Address.ofText? url with
  | none => exact ⟨_, rfl⟩
  | some a =>
    by_cases hnameable : a.isNameable = true
    · have hnone : ∀ r, ¬ Answered net maxRedirections [] a r := fun r hr =>
        h r ⟨a, ha, hnameable, hr⟩
      simpa [hnameable] using visit_of_unanswered hnone
    · simp [hnameable]

end AccessLint.Web
