/-
# Interceptor.Proofs.Http.TargetText — a path and a query on their own

The path and the query of a target are kept as they were written, and may be read once more as
a whole target, whose grammar is another. `StandsAlone` says which of them are then read as
what they are: paths from the root, `*`, and nothing at all. A query without a path
is the one thing a target may end in that does not stand alone.

* `parse_chars`: a path and a query are read back from their own text;
* `parse_written`, `standsAlone_of_parse`: they are read as a target of their own if they stand alone,
  and only then;
* `shape_of_parse`: what a text may be read as; `parse_query_ne`: a query alone is not read;
* `standsAlone_iff`: those of a target that was read stand alone unless there is a query without a path.
-/
import Interceptor.Error
import Interceptor.Http.UriReader
import Interceptor.Proofs.Text.Bytes

namespace Interceptor.Http

set_option autoImplicit false

open Text

namespace PathAndQuery

variable {p : PathAndQuery} {cs : List Char}

/-- The characters of a path and a query as they were written. -/
def chars (p : PathAndQuery) : List Char := p.path.toList ++ p.queryText.toList

theorem queryText_cases (p : PathAndQuery) : p.query = none ∧ p.queryText.toList = [] ∨
    ∃ query, p.query = some query ∧ p.queryText.toList = '?' :: query.toList := by
  unfold queryText
  cases p.query with
  | none => exact .inl ⟨rfl, rfl⟩
  | some query => exact .inr ⟨query, rfl, by simp⟩

/-- Neither a query nor a fragment begins in a path. -/
theorem pathChar_plain {c : Char} (member : c ∈ p.path.toList) : (c != '?' && c != '#') = true := by
  have may := List.all_eq_true.mp p.pathChecked c member
  have apart : ∀ mark, isPathChar mark = false → c ≠ mark := by
    rintro mark other rfl
    rw [may] at other
    cases other
  simp [apart '?' (by decide), apart '#' (by decide)]

/-- No fragment begins in a query. -/
theorem queryChar_plain {query : String} (there : p.query = some query) {c : Char}
    (member : c ∈ query.toList) : (c != '#') = true := by
  have checked := p.queryChecked
  rw [there] at checked
  have may : isQueryChar c = true := List.all_eq_true.mp checked c member
  have apart : c ≠ '#' := by
    rintro rfl
    exact absurd may (by decide)
  simpa using apart

theorem eq_of_parts {q : PathAndQuery} (path : p.path = q.path) (query : p.query = q.query) : p = q := by
  cases p
  cases q
  cases path
  cases query
  rfl

/-- A path and a query are read back from their own text. -/
theorem parse_chars (p : PathAndQuery) : parse p.chars = .ok p := by
  have start : p.chars.takeWhile (fun c => c != '?' && c != '#') = p.path.toList := by
    rw [chars, List.takeWhile_append_of_pos fun c member => pathChar_plain member]
    rcases p.queryText_cases with ⟨-, text⟩ | ⟨query, -, text⟩ <;> simp [text]
  have behind : p.chars.drop p.path.toList.length = p.queryText.toList := List.drop_left
  unfold parse
  simp only [start, behind]
  rw [dif_pos (by simpa using p.pathChecked)]
  rcases p.queryText_cases with ⟨none, text⟩ | ⟨query, some, text⟩
  · simp only [text]
    exact congrArg Except.ok (eq_of_parts String.ofList_toList none.symm)
  · simp only [text]
    have all : query.toList.takeWhile (· != '#') = query.toList := by
      have plain : (query.toList ++ []).takeWhile (· != '#') = query.toList ++ [].takeWhile (· != '#') :=
        List.takeWhile_append_of_pos fun _ member => queryChar_plain some member
      rwa [List.append_nil, List.takeWhile_nil, List.append_nil] at plain
    simp only [all]
    rw [dif_pos]
    · exact congrArg Except.ok (eq_of_parts String.ofList_toList (by simp [some]))
    · have checked := p.queryChecked
      rw [some] at checked
      simpa using checked

/-- What is read is the beginning of a text, and its path ends at the first mark. -/
theorem chars_of_parse (read : parse cs = .ok p) : p.chars <+: cs ∧
    p.path.toList = cs.takeWhile fun c => c != '?' && c != '#' := by
  have start : cs.takeWhile (fun c => c != '?' && c != '#') <+: cs := List.takeWhile_prefix _
  obtain ⟨behind, whole⟩ := start
  unfold parse at read
  simp only at read
  split at read
  · rename_i checked
    generalize cs.takeWhile (fun c => c != '?' && c != '#') = path at whole checked read ⊢
    subst whole
    rw [List.drop_left] at read
    split at read
    · rename_i rest
      split at read
      · cases read
        refine ⟨?_, String.toList_ofList⟩
        simp [chars, queryText, List.takeWhile_prefix]
      · exact nomatch read
    · cases read
      refine ⟨?_, String.toList_ofList⟩
      simp [chars, queryText]
  · exact nomatch read

/-! ## On their own -/

/-- A path from the root, `*`, or nothing at all. -/
structure StandsAlone (p : PathAndQuery) : Prop where
  small : p.written.utf8ByteSize ≤ maxUriBytes
  form : p.path = "" ∧ p.query = none ∨ p.path.toList.head? = some '/' ∨ p = star

theorem pathText_checked (p : PathAndQuery) : p.pathText.toList.all isPathChar = true := by
  unfold pathText
  split
  · decide
  · exact p.pathChecked

/-- The same with `/` in the place of an empty path. -/
def rooted (p : PathAndQuery) : PathAndQuery :=
  { p with path := p.pathText, pathChecked := p.pathText_checked }

theorem written_of_chars (some : p.chars ≠ []) : p.written.toList = p.chars := by
  have nonempty : p.path ++ p.queryText ≠ "" := by
    intro empty
    exact some (by rw [chars, ← String.toList_append, empty]; rfl)
  simp [written, nonempty, chars]

theorem chars_ne_nil (some : p.path ≠ "") : p.chars ≠ [] := by
  intro empty
  exact some (String.toList_eq_nil_iff.mp (List.append_eq_nil_iff.mp empty).1)

theorem chars_of_query {query : String} (empty : p.path = "") (some : p.query = some query) :
    p.chars = '?' :: query.toList := by
  simp [chars, queryText, empty, some]

theorem rooted_of_path (some : p.path ≠ "") : p.rooted = p :=
  eq_of_parts (by simp [rooted, pathText, some]) rfl

/-- What stands alone is read as it is. -/
theorem parse_written (alone : p.StandsAlone) : Uri.parse p.written = .ok (.origin p.rooted) := by
  have fits : ¬ maxUriBytes < p.written.utf8ByteSize := Nat.not_lt.mpr alone.small
  rcases alone.form with ⟨path, query⟩ | slash | rfl
  · have none : p = ⟨"", none, by decide, rfl⟩ := eq_of_parts path query
    subst none
    rfl
  · have some : p.path ≠ "" := by
      intro empty
      rw [empty] at slash
      cases slash
    rw [rooted_of_path some, Uri.parse, if_neg fits, written_of_chars (chars_ne_nil some)]
    obtain ⟨rest, path⟩ := List.head?_eq_some_iff.mp slash
    have read := p.parse_chars
    have front : p.chars = '/' :: (rest ++ p.queryText.toList) := by rw [chars, path, List.cons_append]
    rw [front] at read ⊢
    generalize rest ++ p.queryText.toList = behind at read
    cases behind with
    | nil => exact congrArg (·.map Uri.origin) read
    | cons c behind => exact congrArg (·.map Uri.origin) read
  · rfl

end PathAndQuery

/-! ## In the text of a target -/

section Readers

variable {cs rest : List Char} {text : String} {uri : Uri} {p : PathAndQuery}

/-- What is behind a scheme is the end of the text. -/
theorem suffix_of_readScheme {scheme : Scheme} (read : readScheme cs = .ok (some (scheme, rest))) :
    rest <:+ cs := by
  unfold readScheme at read
  split at read
  · cases read
    exact List.drop_suffix ..
  split at read
  · cases read
    exact List.drop_suffix ..
  split at read
  · exact nomatch read
  simp only at read
  split at read
  · rename_i behind cut
    split at read
    · exact nomatch read
    · cases read
      have whole : ':' :: '/' :: '/' :: rest <:+ cs := cut ▸ List.drop_suffix ..
      exact (List.suffix_append [':', '/', '/'] rest).trans whole
  · exact nomatch read

/-- What ends an authority begins a path from the root, or there is no path. -/
theorem path_of_parse_behind (read : PathAndQuery.parse
    (cs.drop (cs.takeWhile fun c => !endsAuthority c).length) = .ok p) :
    p.path = "" ∨ p.path.toList.head? = some '/' := by
  have whole := List.takeWhile_append_dropWhile (p := fun c => !endsAuthority c) (l := cs)
  have behind : cs.drop (cs.takeWhile fun c => !endsAuthority c).length =
      cs.dropWhile fun c => !endsAuthority c := by
    conv => lhs; rhs; rw [← whole]
    exact List.drop_left
  have ends := List.head?_dropWhile_not (fun c => !endsAuthority c) cs
  have path := (PathAndQuery.chars_of_parse read).2
  rw [behind] at path
  cases rest : cs.dropWhile fun c => !endsAuthority c with
  | nil =>
      rw [rest] at path
      exact .inl (String.toList_eq_nil_iff.mp path)
  | cons c rest' =>
      rw [rest] at path ends
      simp only [List.head?_cons, Bool.not_eq_false', endsAuthority, Bool.or_eq_true, beq_iff_eq] at ends
      rcases ends with (rfl | rfl) | rfl
      · exact .inr (path ▸ rfl)
      · exact .inl (String.toList_eq_nil_iff.mp path)
      · exact .inl (String.toList_eq_nil_iff.mp path)

/-- A text with an authority is no target on its own; its path is empty or from the root. -/
theorem target_of_readWithAuthority (read : readWithAuthority cs = .ok uri) :
    (∃ a, uri = .authority a) ∨ ∃ scheme a p, uri = .absolute scheme a p ∧ p.chars.Sublist cs ∧
      (p.path = "" ∨ p.path.toList.head? = some '/') := by
  unfold readWithAuthority at read
  obtain ⟨found, front, read⟩ := bind_eq_ok_iff.mp read
  cases found with
  | none =>
      obtain ⟨-, -, read⟩ := bind_eq_ok_iff.mp read
      split at read
      · exact nomatch read
      obtain ⟨a, -, read⟩ := bind_eq_ok_iff.mp read
      exact .inl ⟨a, (Except.ok.inj read).symm⟩
  | some found =>
      obtain ⟨scheme, rest⟩ := found
      simp only at read
      split at read
      · exact nomatch read
      obtain ⟨-, -, read⟩ := bind_eq_ok_iff.mp read
      split at read
      · exact nomatch read
      obtain ⟨a, -, read⟩ := bind_eq_ok_iff.mp read
      obtain ⟨p, behind, read⟩ := bind_eq_ok_iff.mp read
      have part := (PathAndQuery.chars_of_parse behind).1.sublist
      have whole := (suffix_of_readScheme front).sublist
      exact .inr ⟨scheme, a, p, (Except.ok.inj read).symm,
        (part.trans (List.drop_sublist ..)).trans whole, path_of_parse_behind behind⟩

/-- What a text is read as. -/
inductive Shape (cs : List Char) : Uri → Prop
  | path (p : PathAndQuery) (root : cs.head? = some '/') (read : PathAndQuery.parse cs = .ok p) :
      Shape cs (.origin p)
  | star (whole : cs = ['*']) : Shape cs (.origin .star)
  | authority (a : Authority) (other : cs.head? ≠ some '/') : Shape cs (.authority a)
  | absolute (scheme : Scheme) (a : Authority) (p : PathAndQuery) (other : cs.head? ≠ some '/')
      (part : p.chars.Sublist cs) (form : p.path = "" ∨ p.path.toList.head? = some '/') :
      Shape cs (.absolute scheme a p)

theorem shape_of_parse (read : Uri.parse text = .ok uri) :
    text.utf8ByteSize ≤ maxUriBytes ∧ Shape text.toList uri := by
  unfold Uri.parse at read
  split at read
  · exact nomatch read
  rename_i fits
  refine ⟨Nat.not_lt.mp fits, ?_⟩
  split at read
  · exact nomatch read
  · rename_i whole
    cases read
    exact .path .slash (by rw [whole]; rfl) (by rw [whole]; rfl)
  · rename_i whole
    cases read
    exact .star whole
  · rename_i slash _ whole
    obtain ⟨a, -, rfl⟩ := map_eq_ok_iff.mp read
    exact .authority a (by simpa [whole] using slash)
  · rename_i whole
    obtain ⟨p, parsed, rfl⟩ := map_eq_ok_iff.mp read
    exact .path p (by rw [whole]; rfl) (by rw [whole]; exact parsed)
  · rename_i slash
    have other : text.toList.head? ≠ some '/' := by
      intro root
      obtain ⟨rest, whole⟩ := List.head?_eq_some_iff.mp root
      exact slash rest whole
    rcases target_of_readWithAuthority read with ⟨a, rfl⟩ | ⟨scheme, a, p, rfl, part, form⟩
    · exact .authority a other
    · exact .absolute scheme a p other part form

/-- There is no scheme at the front of a query. -/
theorem readScheme_of_query (rest : List Char) : readScheme ('?' :: rest) = .ok none := by
  have mark : lowerAscii '?' = '?' := by decide
  have other : isSchemeChar '?' = false := by decide
  simp [readScheme, lowerAsciiText, mark, other]

/-- A query on its own is no target. -/
theorem parse_query_ne {rest : List Char} (query : text.toList = '?' :: rest) :
    Uri.parse text ≠ .ok uri := by
  intro read
  unfold Uri.parse at read
  split at read
  · exact nomatch read
  rw [query] at read
  cases rest with
  | nil =>
      obtain rfl : text = "?" := String.toList_inj.mp query
      exact nomatch read
  | cons c rest =>
      have named : readWithAuthority ('?' :: c :: rest) = .ok uri := read
      unfold readWithAuthority at named
      obtain ⟨found, front, named⟩ := bind_eq_ok_iff.mp named
      rw [readScheme_of_query] at front
      obtain rfl := Except.ok.inj front
      obtain ⟨-, -, named⟩ := bind_eq_ok_iff.mp named
      split at named
      · exact nomatch named
      · rename_i whole
        exact whole (by simp [endsAuthority])

namespace PathAndQuery

/-- What is read as a target of its own stands alone. -/
theorem standsAlone_of_parse {q : PathAndQuery} (read : Uri.parse p.written = .ok (.origin q)) :
    p.StandsAlone := by
  obtain ⟨small, shape⟩ := shape_of_parse read
  refine ⟨small, ?_⟩
  have front : p.chars ≠ [] → p.chars.head? = some '/' ∨ p.chars = ['*'] := by
    intro some
    rw [written_of_chars some] at shape
    cases shape with
    | path q root => exact .inl root
    | star whole => exact .inr whole
  by_cases empty : p.path = ""
  · cases asked : p.query with
    | none => exact .inl ⟨empty, rfl⟩
    | some query =>
      have text := chars_of_query empty asked
      rcases front (by simp [text]) with root | whole
      · simp [text] at root
      · simp [text] at whole
  · right
    cases path : p.path.toList with
    | nil => exact absurd (String.toList_eq_nil_iff.mp path) empty
    | cons c rest =>
        have text : p.chars = c :: (rest ++ p.queryText.toList) := by rw [chars, path, List.cons_append]
        rcases front (chars_ne_nil empty) with root | whole
        · rw [text] at root
          exact .inl root
        · obtain ⟨rfl, nothing⟩ := List.cons.inj (text.symm.trans whole)
          obtain ⟨rfl, none⟩ := List.append_eq_nil_iff.mp nothing
          refine .inr (eq_of_parts (String.toList_inj.mp path) ?_)
          rcases p.queryText_cases with ⟨query, -⟩ | ⟨query, -, behind⟩
          · exact query
          · rw [none] at behind
            cases behind

/-- The path and the query of a target that was read are in its text. -/
theorem in_text_of_parse (read : Uri.parse text = .ok uri) (there : uri.pathAndQuery? = some p) :
    p.chars.Sublist text.toList ∧ (p.path = "" ∨ p.path.toList.head? = some '/' ∨ p = star) := by
  cases (shape_of_parse read).2 with
  | path q root parsed =>
      obtain rfl := Option.some.inj there
      obtain ⟨front, path⟩ := chars_of_parse parsed
      obtain ⟨rest, whole⟩ := List.head?_eq_some_iff.mp root
      rw [whole] at path
      exact ⟨front.sublist, .inr (.inl (path ▸ rfl))⟩
  | star whole =>
      obtain rfl := Option.some.inj there
      exact ⟨whole ▸ List.Sublist.refl _, .inr (.inr rfl)⟩
  | authority a other => exact nomatch there
  | absolute scheme a q other part form =>
      obtain rfl := Option.some.inj there
      exact ⟨part, form.imp_right .inl⟩

theorem written_small (fits : text.utf8ByteSize ≤ maxUriBytes) (part : p.chars.Sublist text.toList) :
    p.written.utf8ByteSize ≤ maxUriBytes := by
  by_cases empty : p.chars = []
  · obtain ⟨path, query⟩ := List.append_eq_nil_iff.mp empty
    have nothing : p.written = "/" := by
      simp [written, String.toList_eq_nil_iff.mp path, String.toList_eq_nil_iff.mp query]
    rw [nothing]
    decide
  · rw [← written_of_chars empty] at part
    exact Nat.le_trans (utf8ByteSize_le_of_sublist part) fits

/-- The path and the query of a target that was read stand alone unless there is a query without a path. -/
theorem standsAlone_iff (read : Uri.parse text = .ok uri) (there : uri.pathAndQuery? = some p) :
    p.StandsAlone ↔ (p.path = "" → p.query = none) := by
  obtain ⟨part, form⟩ := in_text_of_parse read there
  constructor
  · intro alone empty
    rcases alone.form with ⟨-, none⟩ | slash | rfl
    · exact none
    · rw [empty] at slash
      cases slash
    · exact absurd empty (by decide)
  · intro unqueried
    refine ⟨written_small (shape_of_parse read).1 part, ?_⟩
    rcases form with empty | other
    · exact .inl ⟨empty, unqueried empty⟩
    · exact .inr other

/-- Without a path, a query is not read as a target of its own. -/
theorem parse_written_of_query {query : String} (empty : p.path = "") (some : p.query = some query) :
    ∃ e, Uri.parse p.written = .error e := by
  have text := chars_of_query empty some
  cases read : Uri.parse p.written with
  | error e => exact ⟨e, rfl⟩
  | ok uri =>
      have whole : p.written.toList = '?' :: query.toList := by
        rw [written_of_chars (by simp [text]), text]
      exact absurd read (parse_query_ne whole)

/-- A text that begins with `/` is read as a path from the root. -/
theorem exists_root_of_parse (read : Uri.parse text = .ok uri) (root : text.toList.head? = some '/') :
    ∃ p : PathAndQuery, uri = .origin p ∧ p.path ≠ "" ∧ p.StandsAlone := by
  cases shape : (shape_of_parse read).2 with
  | path p _ parsed =>
      have path := (chars_of_parse parsed).2
      obtain ⟨rest, whole⟩ := List.head?_eq_some_iff.mp root
      have some : p.path ≠ "" := by
        intro empty
        rw [empty, whole] at path
        cases path
      exact ⟨p, rfl, some, (standsAlone_iff read rfl).mpr fun empty => absurd empty some⟩
  | star whole =>
      rw [whole] at root
      cases root
  | authority a other => exact absurd root other
  | absolute scheme a p other => exact absurd root other

end PathAndQuery

end Readers

end Interceptor.Http
