import AccessLint.Input
import AccessLint.Proofs.Text.Utf8

namespace AccessLint

/-!
# Lines of a file

A line feed is a byte that continues no character, so it ends whatever stands before it, valid or
not, and nothing is read across it. The lines of a decoded text are the decoded lines of the bytes.

* `Text.units_append_stop` — reading starts again at a byte that continues no character;
* `Text.decodeLossy_newline`, `Text.newline_mem_decodeLossy` — line feeds, and no others, become
  line feeds;
* `Text.splitOn_decodeLossy` — the lines of a decoded text;
* `readPage_lines` — the lines of a page in a file.
-/

namespace Text

variable {stop b : UInt8} {bytes rest : List UInt8} {c : Char}

/-! ### Units -/

/-- A unit takes no more bytes than there are, so `units` never reads beyond the end. -/
theorem readUnit_snd_le (lead : UInt8) (rest : List UInt8) :
    (readUnit lead rest).2 ≤ rest.length := by
  unfold readUnit
  rcases rest with _ | ⟨b, _ | ⟨c, _ | ⟨d, rest⟩⟩⟩
  all_goals
    simp only [List.length_cons, List.length_nil]
    repeat' split
    all_goals omega

theorem allowsSecond_of_stop (hstop : isContinuation stop = false) (lead : UInt8) :
    allowsSecond lead stop = false := by
  rw [Bool.eq_false_iff] at hstop ⊢
  intro h
  rw [allowsSecond_iff] at h
  exact hstop (isContinuation_iff.mpr ⟨h.1, h.2.1⟩)

/-- A byte that continues no character ends a unit just as the end of the bytes does. The cases are
    the branches of `readUnit`. -/
theorem readUnit_append_stop (hstop : isContinuation stop = false) (lead : UInt8)
    (rest after : List UInt8) : readUnit lead (rest ++ stop :: after) = readUnit lead rest := by
  have hsecond := allowsSecond_of_stop hstop lead
  unfold readUnit
  rcases rest with _ | ⟨b, _ | ⟨c, _ | ⟨d, rest⟩⟩⟩
  case nil => rcases after with _ | ⟨x, _ | ⟨y, after⟩⟩ <;> simp [hstop, hsecond]
  case cons.nil =>
    rcases after with _ | ⟨x, after⟩ <;> cases hb : allowsSecond lead b <;> simp [hstop, hb]
  case cons.cons.nil =>
    cases hb : allowsSecond lead b <;> cases hc : isContinuation c <;> simp [hstop, hb, hc]
  case cons.cons.cons => rfl

/-- **Reading starts again** (`units`) at a byte that continues no character: an incomplete
    character before it is replaced by itself. -/
theorem units_append_stop (hstop : isContinuation stop = false) {skip : Nat}
    (hskip : skip ≤ bytes.length) (after : List UInt8) :
    units skip (bytes ++ stop :: after) = units skip bytes ++ units 0 (stop :: after) := by
  induction bytes generalizing skip with
  | nil =>
    rw [Nat.le_zero.mp hskip]
    rfl
  | cons b bytes ih =>
    cases skip with
    | succ skip => exact ih (Nat.le_of_succ_le_succ hskip)
    | zero =>
      rw [List.cons_append, units, units, readUnit_append_stop hstop]
      dsimp only
      rw [ih (readUnit_snd_le b bytes), List.cons_append]

/-- **A line feed** of the bytes is one of the text that `decodeLossy` gives, and what stands on its
    two sides is decoded on its own. -/
theorem decodeLossy_newline (before after : List UInt8) :
    decodeLossy (before ++ 0x0A :: after) = decodeLossy before ++ '\n' :: decodeLossy after := by
  have hunits : units 0 (0x0A :: after) = some '\n' :: units 0 after := rfl
  unfold decodeLossy
  rw [units_append_stop (by decide) (Nat.zero_le _), hunits, List.map_append, List.map_cons]
  rfl

/-- A line feed is read from a line feed only: no longer spelling has it, and no fault gives it. -/
theorem eq_newline_of_readUnit {more : Nat} (h : readUnit b rest = (some '\n', more)) :
    b = 0x0A := by
  obtain ⟨n, bs, after, -, -, hspells, hn⟩ := spells_of_readUnit h
  have hbytes := encode_of_spells hspells
  rw [← hn] at hbytes
  exact (List.cons.inj hbytes).1.symm

/-- A line feed among the `units` comes from one of the bytes, since only its own byte is read as
    one. -/
theorem newline_mem_units {skip : Nat} (h : some '\n' ∈ units skip bytes) : 0x0A ∈ bytes := by
  induction bytes generalizing skip with
  | nil => cases h
  | cons b bytes ih =>
    cases skip with
    | succ skip => exact List.mem_cons_of_mem b (ih h)
    | zero =>
      cases hunit : readUnit b bytes with
      | mk found more =>
        rw [units, hunit] at h
        rcases List.mem_cons.mp h with hfound | hlater
        · rw [← hfound] at hunit
          rw [eq_newline_of_readUnit hunit]
          exact List.mem_cons_self
        · exact List.mem_cons_of_mem b (ih hlater)

/-- Bytes without a line feed are a text without one: `decodeLossy` makes none up. -/
theorem newline_mem_decodeLossy (h : '\n' ∈ decodeLossy bytes) : 0x0A ∈ bytes := by
  obtain ⟨found, hfound, heq⟩ := List.mem_map.mp h
  cases found with
  | none => exact absurd heq (by decide)
  | some c =>
    rw [Option.getD_some] at heq
    exact newline_mem_units (heq ▸ hfound)

/-! ### Lines -/

/-- The induction for bytes line by line: the last line, or a line and the line feed behind it. -/
theorem byLines {P : List UInt8 → Prop} (last : ∀ line, 0x0A ∉ line → P line)
    (next : ∀ line rest, 0x0A ∉ line → P rest → P (line ++ 0x0A :: rest)) (bytes : List UInt8) :
    P bytes := by
  induction hn : bytes.length using Nat.strongRecOn generalizing bytes with
  | ind n ih =>
    by_cases hmem : 0x0A ∈ bytes
    · obtain ⟨line, rest, rfl, hline⟩ := List.eq_append_cons_of_mem hmem
      have hshorter : rest.length < n := by
        rw [← hn, List.length_append, List.length_cons]
        omega
      exact next line rest hline (ih rest.length hshorter rest rfl)
    · exact last bytes hmem

/-- So a line of the bytes is a line of the text, not more. -/
theorem newline_not_mem_decodeLossy (h : 0x0A ∉ bytes) : '\n' ∉ decodeLossy bytes :=
  fun hmem => h (newline_mem_decodeLossy hmem)

/-- **The lines of a decoded text** are the lines of the bytes, each decoded on its own:
    `decodeLossy` goes through `List.splitOn`. -/
theorem splitOn_decodeLossy (bytes : List UInt8) :
    (decodeLossy bytes).splitOn '\n' = (bytes.splitOn 0x0A).map decodeLossy := by
  induction bytes using byLines with
  | last line hline =>
    rw [List.splitOn_eq_singleton hline,
      List.splitOn_eq_singleton (newline_not_mem_decodeLossy hline)]
    rfl
  | next line rest hline ih =>
    rw [decodeLossy_newline,
      List.splitOn_append_cons_self_of_not_mem (newline_not_mem_decodeLossy hline),
      List.splitOn_append_cons_self_of_not_mem hline, ih, List.map_cons]

/-- There are as many line feeds in the text as in the bytes, so line numbers are the same. -/
theorem count_newline_decodeLossy (bytes : List UInt8) :
    (decodeLossy bytes).count '\n' = bytes.count 0x0A := by
  induction bytes using byLines with
  | last line hline =>
    rw [List.count_eq_zero.mpr hline,
      List.count_eq_zero.mpr (newline_not_mem_decodeLossy hline)]
  | next line rest hline ih =>
    rw [decodeLossy_newline, List.count_append, List.count_append, List.count_cons_self,
      List.count_cons_self, List.count_eq_zero.mpr hline,
      List.count_eq_zero.mpr (newline_not_mem_decodeLossy hline), ih]

/-- **Every line feed of the text** comes from one of the bytes: what stands on its two sides is
    decoded from what stands on the two sides of the byte. -/
theorem exists_newline_of_decodeLossy {before after : Text}
    (h : decodeLossy bytes = before ++ '\n' :: after) : ∃ first rest,
      bytes = first ++ 0x0A :: rest ∧ decodeLossy first = before ∧ decodeLossy rest = after := by
  induction bytes using byLines generalizing before with
  | last line hline =>
    exact absurd (h ▸ List.mem_append_right before List.mem_cons_self)
      (newline_not_mem_decodeLossy hline)
  | next line rest hline ih =>
    have hfirst := newline_not_mem_decodeLossy hline
    rw [decodeLossy_newline] at h
    rcases List.append_eq_append_iff.mp h with ⟨s, hbefore, hs⟩ | ⟨s, hbefore, hs⟩
    · cases s with
      | nil =>
        obtain ⟨-, hrest⟩ := List.cons.inj hs
        exact ⟨line, rest, rfl, by rw [hbefore, List.append_nil], hrest⟩
      | cons c s =>
        -- the line feed stands in a later line
        obtain ⟨rfl, hrest⟩ := List.cons.inj hs
        obtain ⟨first, rest', rfl, hdecoded, hafter⟩ := ih hrest
        refine ⟨line ++ 0x0A :: first, rest', by simp, ?_, hafter⟩
        rw [decodeLossy_newline, hdecoded, hbefore]
    · cases s with
      | nil =>
        obtain ⟨-, hrest⟩ := List.cons.inj hs
        exact ⟨line, rest, rfl, by rw [hbefore, List.append_nil], hrest.symm⟩
      | cons c s =>
        obtain ⟨rfl, -⟩ := List.cons.inj hs
        exact absurd (hbefore ▸ List.mem_append_right before List.mem_cons_self) hfirst

end Text

/-! ### Pages -/

open Files (FileTree)

/-- **The lines of a page** that `readPage` gives are the lines of its file, each decoded on its
    own. So the line feeds of the text are those of the file, one for one, and what stands on the
    two sides of one is decoded from what stands on the two sides of the other. A file that is valid
    UTF-8 is spelled by its text, and both decoders read it. -/
theorem readPage_lines {files : FileTree} {path : Text} {bytes : List UInt8}
    (h : files.read path = .ok bytes) :
    ∃ text, readPage files path = .ok ⟨path, text⟩ ∧
      text.splitOn '\n' = (bytes.splitOn 0x0A).map Text.decode ∧
      (∀ before after, text = before ++ '\n' :: after ↔
        ∃ first rest, bytes = first ++ 0x0A :: rest ∧ first.count 0x0A = before.count '\n' ∧
          Text.decode first = before ∧ Text.decode rest = after) ∧
      ∀ t, bytes = Text.encode t → text = t ∧ Text.encode text = bytes ∧
        Text.decode? bytes = some text ∧ Text.decodeLossy bytes = text := by
  have hdecode : Text.decode = Text.decodeLossy := funext Text.decode_eq_decodeLossy
  refine ⟨Text.decode bytes, by rw [readPage, h], ?_⟩
  rw [hdecode]
  refine ⟨Text.splitOn_decodeLossy bytes, fun before after => ⟨?_, ?_⟩, ?_⟩
  · intro htext
    obtain ⟨first, rest, rfl, rfl, rfl⟩ := Text.exists_newline_of_decodeLossy htext
    exact ⟨first, rest, rfl, (Text.count_newline_decodeLossy first).symm, rfl, rfl⟩
  · rintro ⟨first, rest, rfl, -, rfl, rfl⟩
    exact Text.decodeLossy_newline first rest
  · intro t ht
    have hstrict := Text.decode?_eq_some_iff.mpr ht
    rw [Text.decodeLossy_of_decode? hstrict]
    exact ⟨rfl, ht.symm, hstrict, rfl⟩

/-- Two files: one whose lines end within characters, and one that is valid. -/
def mixedFiles : FileTree :=
  ⟨.dir [("a", .file [0x43, 0xE9, 0x0A, 0xF0, 0x9F, 0x98, 0x0A, 0x3C] .full),
    ("b", .file (Text.encode "é\n") .full)] .full, []⟩

/-- In `mixedFiles` each cut off character is one replacement character, and the line feed behind it
    stays. -/
theorem readPage_lines_mixed :
    mixedFiles.read "a" = .ok [0x43, 0xE9, 0x0A, 0xF0, 0x9F, 0x98, 0x0A, 0x3C] ∧
      (∃ text, readPage mixedFiles "a" = .ok ⟨"a", text⟩ ∧
        text.splitOn '\n' = (["C\uFFFD", "\uFFFD", "<"] : List Text)) ∧
      mixedFiles.read "b" = .ok (Text.encode "é\n") ∧
      readPage mixedFiles "b" = .ok ⟨"b", "é\n"⟩ := by
  have ha : mixedFiles.read "a" = .ok [0x43, 0xE9, 0x0A, 0xF0, 0x9F, 0x98, 0x0A, 0x3C] := rfl
  have hb : mixedFiles.read "b" = .ok (Text.encode "é\n") := rfl
  refine ⟨ha, ?_, hb, ?_⟩
  · obtain ⟨text, htext, hlines, -⟩ := readPage_lines ha
    exact ⟨text, htext, hlines.trans (by decide)⟩
  · obtain ⟨text, htext, -, -, hvalid⟩ := readPage_lines hb
    rw [htext, (hvalid _ rfl).1]

end AccessLint
