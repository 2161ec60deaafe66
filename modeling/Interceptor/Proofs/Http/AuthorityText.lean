/-
# Interceptor.Proofs.Http.AuthorityText — the marks in the text of an authority

The check of an authority reads its text once, from left to right. What it remembers
is tied to what it has read (`AuthorityScan.Knows`), one character at a time, and the
conditions at the end then say what every authority looks like: brackets stand in it
at most once, in order, and are closed; behind them and behind user information there is at
most one colon; and nothing but visible ASCII is in it.

* `reads_of_step`: all that one character can do to the scan;
* `Knows.read`, `Knows.foldlM`: what it remembers, after a character and after a text;
* `closes_of_opens`, `opens_of_closes_front`, `opens_le_one`, `closes_le_one`, `colons_le_one`,
  `colons_le_one_behind`: the marks of an authority;
* `visible`: its characters;
* `text_of_userInfo?`: user information and what follows it are the whole text;
* `mem_hostPort_of_mem_bareHost`: a host is made of what stands behind the user information;
* `hostPort_eq`, `hostForm`: what stands there is the host and what is behind it, and the host is in
  brackets or without colons.
-/
import Interceptor.Http.Uri

namespace Interceptor.Http

set_option autoImplicit false

open Text

/-- A character of ASCII that is neither a blank nor a control character. -/
def IsVisible (c : Char) : Prop := 33 ≤ c.toNat ∧ c.toNat ≤ 126

instance (c : Char) : Decidable (IsVisible c) := inferInstanceAs (Decidable (_ ∧ _))

theorem isVisible_of_isUriChar {c : Char} (may : isUriChar c = true) : IsVisible c := by
  have between : ∀ {low high : Char}, low ≤ c ∧ c ≤ high → low.toNat ≤ c.toNat ∧ c.toNat ≤ high.toNat :=
    fun bounds => ⟨UInt32.le_iff_toNat_le.mp bounds.1, UInt32.le_iff_toNat_le.mp bounds.2⟩
  simp only [isUriChar, isAlphanumeric, Bool.or_eq_true, Bool.and_eq_true, decide_eq_true_eq] at may
  rcases may with ((letter | letter) | digit) | sign
  · exact (between letter).imp (Nat.le_trans (by decide)) (Nat.le_trans · (by decide))
  · exact (between letter).imp (Nat.le_trans (by decide)) (Nat.le_trans · (by decide))
  · exact (between digit).imp (Nat.le_trans (by decide)) (Nat.le_trans · (by decide))
  · have signs : "!#$&'()*+,-./:;=?@[]_~".toList.all (fun sign => decide (IsVisible sign)) = true := by
      decide
    exact of_decide_eq_true (List.all_eq_true.mp signs c (List.contains_iff_mem.mp sign))

namespace AuthorityScan

variable {s next : AuthorityScan} {c : Char} {front : List Char}

/-- What a character does to a scan that goes on behind it. -/
structure Reads (s : AuthorityScan) (c : Char) (next : AuthorityScan) : Prop where
  opened : next.opened = (s.opened || c == '[')
  opens : c = '[' → s.opened = false
  closed : next.closed = (s.closed || c == ']')
  closes : c = ']' → s.closed = false
  /-- A bracket is closed that is open. -/
  ordered : c = ']' → s.opened = true
  colons : c ≠ ']' → c ≠ '@' → next.colons = s.colons + if c = ':' then 1 else 0
  visible : IsVisible c

theorem reads_of_step (taken : s.step c = .ok next) : s.Reads c next := by
  unfold step at taken
  simp only at taken
  split at taken
  · split at taken
    · exact nomatch taken
    · rename_i colon _
      cases taken
      constructor <;> simp [colon, IsVisible]
  split at taken
  · rename_i bracket
    split at taken
    · exact nomatch taken
    · rename_i fresh
      rw [Bool.or_eq_true, not_or, Bool.not_eq_true, Bool.not_eq_true] at fresh
      cases taken
      constructor <;> simp [bracket, fresh.2, IsVisible]
  split at taken
  · rename_i bracket
    split at taken
    · exact nomatch taken
    · rename_i open'
      rw [Bool.or_eq_true, not_or, Bool.not_eq_true, Bool.not_eq_true] at open'
      cases taken
      constructor <;> simp [bracket, open'.2, IsVisible]
      simpa using open'.1
  -- no other character is a mark of these three kinds
  rename_i colon opening closing
  split at taken
  · rename_i sign
    cases taken
    constructor <;> simp [sign, IsVisible]
  split at taken
  · rename_i percent
    cases taken
    constructor <;> simp [percent, IsVisible]
  split at taken
  · rename_i may
    cases taken
    have visible := isVisible_of_isUriChar may
    constructor <;> simp [colon, opening, closing, visible]
  · exact nomatch taken

/-- What a scan remembers of the text it has read. -/
structure Knows (s : AuthorityScan) (front : List Char) : Prop where
  opened : s.opened = true ↔ '[' ∈ front
  closed : s.closed = true ↔ ']' ∈ front
  ordered : ']' ∈ front → '[' ∈ front
  opens : front.count '[' ≤ 1
  closes : front.count ']' ≤ 1
  colons : ']' ∉ front → '@' ∉ front → s.colons = front.count ':'
  /-- Behind the last bracket and the last `@` no colon is forgotten. -/
  tail : ∀ early late, front = early ++ late → ']' ∉ late → '@' ∉ late → late.count ':' ≤ s.colons
  visible : ∀ c ∈ front, IsVisible c

theorem knows_nil : Knows {} [] := by
  constructor <;> simp

/-- A mark that was not there yet stands once behind one more character. -/
theorem count_concat_le_one {mark : Char} (once : front.count mark ≤ 1)
    (fresh : c = mark → mark ∉ front) : (front ++ [c]).count mark ≤ 1 := by
  rw [List.count_append, List.count_singleton]
  split
  · rename_i same
    have none := List.count_eq_zero.mpr (fresh (eq_of_beq same))
    omega
  · exact once

theorem Knows.read (knows : s.Knows front) (reads : s.Reads c next) : next.Knows (front ++ [c]) where
  opened := by
    rw [reads.opened, Bool.or_eq_true, beq_iff_eq, knows.opened, List.mem_append, List.mem_singleton,
      @eq_comm _ c]
  closed := by
    rw [reads.closed, Bool.or_eq_true, beq_iff_eq, knows.closed, List.mem_append, List.mem_singleton,
      @eq_comm _ c]
  opens := count_concat_le_one knows.opens fun same => by simp [← knows.opened, reads.opens same]
  closes := count_concat_le_one knows.closes fun same => by simp [← knows.closed, reads.closes same]
  ordered := by
    intro closes
    rcases List.mem_append.mp closes with earlier | last
    · exact List.mem_append_left _ (knows.ordered earlier)
    · have bracket := (List.mem_singleton.mp last).symm
      exact List.mem_append_left _ (knows.opened.mp (reads.ordered bracket))
  colons := by
    intro open' unnamed
    simp only [List.mem_append, List.mem_singleton, not_or] at open' unnamed
    rw [reads.colons (Ne.symm open'.2) (Ne.symm unnamed.2), knows.colons open'.1 unnamed.1,
      List.count_append, List.count_singleton]
    simp only [beq_iff_eq]
  tail := by
    intro early late cut open' unnamed
    rcases List.eq_nil_or_concat late with rfl | ⟨before, last, rfl⟩
    · exact Nat.zero_le _
    · rw [List.concat_eq_append, ← List.append_assoc] at cut
      obtain ⟨earlier, same⟩ := List.append_inj' cut rfl
      obtain rfl := (List.cons.inj same).1
      simp only [List.concat_eq_append, List.mem_append, List.mem_singleton, not_or] at open' unnamed
      have counted := knows.tail early before earlier open'.1 unnamed.1
      rw [reads.colons (Ne.symm open'.2) (Ne.symm unnamed.2), List.concat_eq_append,
        List.count_append, List.count_singleton]
      simp only [beq_iff_eq]
      omega
  visible := by
    intro other member
    rcases List.mem_append.mp member with earlier | last
    · exact knows.visible other earlier
    · exact List.mem_singleton.mp last ▸ reads.visible

theorem Knows.foldlM {rest : List Char} (knows : s.Knows front)
    (taken : rest.foldlM step s = .ok next) : next.Knows (front ++ rest) := by
  induction rest generalizing s front with
  | nil =>
      cases taken
      rwa [List.append_nil]
  | cons c rest ih =>
      rw [List.foldlM_cons] at taken
      cases first : s.step c with
      | error e =>
          rw [first] at taken
          exact nomatch taken
      | ok between =>
          rw [first] at taken
          have whole := ih (knows.read (reads_of_step first)) taken
          rwa [List.append_assoc] at whole

end AuthorityScan

namespace Authority

variable (a : Authority)

/-! ## The marks of an authority -/

/-- The scan of the whole text comes to an end that passes. -/
theorem exists_scan : ∃ s : AuthorityScan, s.Knows a.text.toList ∧ s.opened = s.closed ∧
    s.colons ≤ 1 := by
  have checked := a.checked
  unfold check at checked
  cases run : a.text.toList.foldlM AuthorityScan.step {} with
  | error e =>
      rw [run] at checked
      exact nomatch checked
  | ok s =>
      rw [run] at checked
      refine ⟨s, AuthorityScan.knows_nil.foldlM run, ?_⟩
      have passed : s.finish.isOk = true := checked
      unfold AuthorityScan.finish at passed
      split at passed
      · exact nomatch passed
      split at passed
      · exact nomatch passed
      · rename_i same few
        exact ⟨by simpa using same, Nat.le_of_not_lt few⟩

/-- So does the scan of its beginning. -/
theorem exists_scan_front {front back : List Char} (cut : a.text.toList = front ++ back) :
    ∃ s : AuthorityScan, s.Knows front := by
  have checked := a.checked
  rw [check, cut, List.foldlM_append] at checked
  cases run : front.foldlM AuthorityScan.step {} with
  | error e =>
      rw [run] at checked
      exact nomatch checked
  | ok s => exact ⟨s, AuthorityScan.knows_nil.foldlM run⟩

theorem closes_of_opens (opens : '[' ∈ a.text.toList) : ']' ∈ a.text.toList := by
  obtain ⟨s, knows, same, -⟩ := a.exists_scan
  rwa [← knows.closed, ← same, knows.opened]

theorem opens_of_closes (closes : ']' ∈ a.text.toList) : '[' ∈ a.text.toList := by
  obtain ⟨s, knows, same, -⟩ := a.exists_scan
  rwa [← knows.opened, same, knows.closed]

/-- No bracket is closed before it is opened. -/
theorem opens_of_closes_front {front back : List Char} (cut : a.text.toList = front ++ back)
    (closes : ']' ∈ front) : '[' ∈ front := by
  obtain ⟨s, knows⟩ := a.exists_scan_front cut
  exact knows.ordered closes

theorem opens_le_one : a.text.toList.count '[' ≤ 1 := by
  obtain ⟨s, knows, -⟩ := a.exists_scan
  exact knows.opens

theorem closes_le_one : a.text.toList.count ']' ≤ 1 := by
  obtain ⟨s, knows, -⟩ := a.exists_scan
  exact knows.closes

/-- Without brackets and user information, a colon can only stand in front of a port. -/
theorem colons_le_one (plain : '[' ∉ a.text.toList) (unnamed : '@' ∉ a.text.toList) :
    a.text.toList.count ':' ≤ 1 := by
  obtain ⟨s, knows, -, few⟩ := a.exists_scan
  rwa [← knows.colons (mt a.opens_of_closes plain) unnamed]

/-- Behind the last bracket and the last `@`, too, a colon can only stand in front of a port. -/
theorem colons_le_one_behind {front back : List Char} (cut : a.text.toList = front ++ back)
    (open' : ']' ∉ back) (unnamed : '@' ∉ back) : back.count ':' ≤ 1 := by
  obtain ⟨s, knows, -, few⟩ := a.exists_scan
  exact Nat.le_trans (knows.tail front back cut open' unnamed) few

theorem visible {c : Char} (member : c ∈ a.text.toList) : IsVisible c := by
  obtain ⟨s, knows, -⟩ := a.exists_scan
  exact knows.visible c member

/-! ## User information and host -/

/-- What stands in front of the last `@`. -/
def userInfo? : Option (List Char) := (splitLast? '@' a.text.toList).map (·.1)

variable {a}

theorem hostPort_of_unnamed (unnamed : a.userInfo? = none) :
    a.hostPort = a.text.toList ∧ '@' ∉ a.text.toList := by
  rw [userInfo?, Option.map_eq_none_iff] at unnamed
  exact ⟨by rw [hostPort, unnamed], splitLast?_eq_none.mp unnamed⟩

theorem text_of_userInfo? {info : List Char} (named : a.userInfo? = some info) :
    a.text.toList = info ++ '@' :: a.hostPort ∧ '@' ∉ a.hostPort := by
  obtain ⟨⟨before, rest⟩, cut, rfl⟩ := Option.map_eq_some_iff.mp named
  have host : a.hostPort = rest := by rw [hostPort, cut]
  rw [host]
  exact ⟨append_of_splitLast? cut, not_mem_of_splitLast? cut⟩

/-- A text without the brackets around it. -/
def unbracket : List Char → List Char
  | '[' :: rest => if rest.getLast? = some ']' then rest.dropLast else '[' :: rest
  | host => host

variable (a) in
/-- The host without the brackets of an IPv6 address. -/
def bareHost : List Char := unbracket a.hostChars

theorem unbracket_bracketed (inner : List Char) : unbracket ('[' :: inner ++ [']']) = inner := by
  simp [unbracket]

theorem unbracket_of_open {host : List Char} (plain : host.head? ≠ some '[') :
    unbracket host = host := by
  unfold unbracket
  split
  · exact absurd rfl plain
  · rfl

theorem unbracket_sublist (host : List Char) : (unbracket host).Sublist host := by
  unfold unbracket
  split
  · split
    · exact (List.dropLast_sublist _).cons _
    · exact .refl _
  · exact .refl _

theorem hostChars_prefix : a.hostChars <+: a.hostPort := by
  unfold hostChars
  split
  · rename_i rest bracketed
    rw [bracketed]
    split
    · rename_i inner after cut
      rw [append_of_splitFirst? cut]
      exact ⟨after, by simp⟩
    · exact List.prefix_rfl
  · split
    · rename_i name port cut
      rw [append_of_splitFirst? cut]
      exact List.prefix_append ..
    · exact List.prefix_rfl

/-- A host is made of what stands behind the user information. -/
theorem mem_hostPort_of_mem_bareHost {c : Char} (member : c ∈ a.bareHost) : c ∈ a.hostPort :=
  ((unbracket_sublist _).trans hostChars_prefix.sublist).subset member

/-- A host without brackets ends at the first colon. -/
theorem bareHost_cases_of_plain (plain : a.hostPort.head? ≠ some '[') :
    (∃ port, a.hostPort = a.bareHost ++ ':' :: port ∧ ':' ∉ a.bareHost) ∨
      ':' ∉ a.hostPort ∧ a.bareHost = a.hostPort := by
  unfold bareHost hostChars
  split
  · rename_i bracketed
    exact absurd (congrArg List.head? bracketed) plain
  split
  · rename_i name port cut
    have whole := append_of_splitFirst? cut
    have open' : name.head? ≠ some '[' := by
      intro bracketed
      obtain ⟨rest, rfl⟩ := List.head?_eq_some_iff.mp bracketed
      exact plain (congrArg List.head? whole)
    rw [unbracket_of_open open']
    exact .inl ⟨port, whole, not_mem_of_splitFirst? cut⟩
  · rename_i none
    exact .inr ⟨splitFirst?_eq_none.mp none, unbracket_of_open plain⟩

/-! ## What is behind the user information -/

variable (a) in
/-- What stands behind the user information is the end of the text. -/
theorem exists_front : ∃ front, a.text.toList = front ++ a.hostPort ∧ '@' ∉ a.hostPort ∧
    (front = [] ∨ ∃ info, front = info ++ ['@']) := by
  cases named : a.userInfo? with
  | none =>
      obtain ⟨all, unnamed⟩ := hostPort_of_unnamed named
      exact ⟨[], all.symm, all ▸ unnamed, .inl rfl⟩
  | some info =>
      obtain ⟨whole, unnamed⟩ := text_of_userInfo? named
      exact ⟨info ++ ['@'], by rw [whole]; simp, unnamed, .inr ⟨info, rfl⟩⟩

/-- A bracket in front of the host is closed behind it. -/
theorem closes_of_bracketed {rest : List Char} (bracketed : a.hostPort = '[' :: rest) :
    ']' ∈ rest := by
  obtain ⟨front, whole, -⟩ := a.exists_front
  rw [bracketed] at whole
  have closes := a.closes_of_opens (whole ▸ by simp)
  have fresh : '[' ∉ front := by
    intro earlier
    have once := a.opens_le_one
    rw [whole, List.count_append, List.count_cons_self] at once
    have some := List.count_pos_iff.mpr earlier
    omega
  have open' : ']' ∉ front := fun earlier => fresh (a.opens_of_closes_front whole earlier)
  rw [whole, List.mem_append, List.mem_cons] at closes
  exact (closes.resolve_left open').resolve_left (by decide)

variable (a) in
/-- What stands behind the host. -/
def behindHost : List Char := a.hostPort.drop a.hostChars.length

variable (a) in
theorem hostPort_eq : a.hostPort = a.hostChars ++ a.behindHost :=
  (List.prefix_iff_eq_append.mp hostChars_prefix).symm

theorem behindHost_of_eq {behind : List Char} (whole : a.hostPort = a.hostChars ++ behind) :
    a.behindHost = behind :=
  List.append_cancel_left (a.hostPort_eq.symm.trans whole)

/-- The host is in brackets, or it has no colon and nothing but a port may follow. -/
inductive HostForm (a : Authority) : Prop
  | bracketed (host : a.hostChars = '[' :: a.bareHost ++ [']']) (clean : ']' ∉ a.bareHost)
  | plain (host : a.hostChars = a.bareHost) (colonless : ':' ∉ a.bareHost)
      (bare : a.bareHost.head? ≠ some '[')
      (mark : a.behindHost = [] ∨ ∃ port, a.behindHost = ':' :: port)

theorem hostForm_of_bracket {rest : List Char} (bracket : a.hostPort = '[' :: rest) : a.HostForm := by
  cases cut : splitFirst? ']' rest with
  | none => exact absurd (closes_of_bracketed bracket) (splitFirst?_eq_none.mp cut)
  | some parts =>
      have host : a.hostChars = '[' :: parts.1 ++ [']'] := by simp only [hostChars, bracket, cut]
      have same : a.bareHost = parts.1 := by rw [bareHost, host, unbracket_bracketed]
      exact .bracketed (same ▸ host) (same ▸ not_mem_of_splitFirst? cut)

theorem hostForm_of_plain (plain : a.hostPort.head? ≠ some '[') : a.HostForm := by
  have open' : a.hostChars.head? ≠ some '[' := by
    intro bracketed
    obtain ⟨rest, host⟩ := List.head?_eq_some_iff.mp bracketed
    exact plain (by rw [a.hostPort_eq, host]; rfl)
  have host : a.hostChars = a.bareHost := (unbracket_of_open open').symm
  rcases bareHost_cases_of_plain plain with ⟨port, whole, colonless⟩ | ⟨colonless, whole⟩
  · exact .plain host colonless (host ▸ open') (.inr ⟨port, behindHost_of_eq (host ▸ whole)⟩)
  · have nothing : a.behindHost = [] := behindHost_of_eq (by rw [host, whole, List.append_nil])
    exact .plain host (whole ▸ colonless) (host ▸ open') (.inl nothing)

variable (a) in
theorem hostForm : a.HostForm := by
  by_cases bracketed : a.hostPort.head? = some '['
  · obtain ⟨rest, bracket⟩ := List.head?_eq_some_iff.mp bracketed
    exact hostForm_of_bracket bracket
  · exact hostForm_of_plain bracketed

end Authority

end Interceptor.Http
