/-
# Interceptor.Proofs.Net.AddressText — the marks in the text of an IP address

Points and colons tell an address from other texts. An IPv4 address has three
points and no colon; an IPv6 address has at least two colons, and three points if
it ends like an IPv4 address, and otherwise none. Neither has a bracket. Each
reader takes its part off the front of a text (`Takes`), and what it takes adds
up along the text.

* `groups_takes`: as many colons as there are groups, or nearly so;
* `ip?_takes`: the marks of an address;
* `marks_of_parse`: the same of a whole text.
-/
import Interceptor.Net.AddressReader

namespace Interceptor.Net

set_option autoImplicit false

namespace AddressReader

/-- A text is taken off the front of another, with so many points and colons and without a bracket. -/
def Takes (points colons : Nat) (cs rest : List Char) : Prop :=
  ∃ taken, cs = taken ++ rest ∧ taken.count '.' = points ∧ taken.count ':' = colons ∧ '[' ∉ taken

theorem Takes.nothing (cs : List Char) : Takes 0 0 cs cs := ⟨[], rfl, rfl, rfl, List.not_mem_nil⟩

theorem Takes.andThen {points colons points' colons' : Nat} {cs middle rest : List Char}
    (first : Takes points colons cs middle) (later : Takes points' colons' middle rest) :
    Takes (points + points') (colons + colons') cs rest := by
  obtain ⟨taken, rfl, rfl, rfl, plain⟩ := first
  obtain ⟨more, rfl, rfl, rfl, plain'⟩ := later
  refine ⟨taken ++ more, (List.append_assoc ..).symm, List.count_append, List.count_append, ?_⟩
  exact fun member => (List.mem_append.mp member).elim plain plain'

theorem Takes.char {c : Char} (plain : c ≠ '[') {cs rest : List Char} (taken : char? c cs = some rest) :
    Takes (if c = '.' then 1 else 0) (if c = ':' then 1 else 0) cs rest := by
  unfold char? at taken
  split at taken
  · exact nomatch taken
  · rename_i d others
    split at taken
    · rename_i same
      subst same
      cases taken
      exact ⟨[c], rfl, by simp [List.count_singleton], by simp [List.count_singleton],
        by simpa using plain.symm⟩
    · exact nomatch taken

theorem takes_digit {base : Nat} {c : Char} {d : Nat} (digit : digitIn? base c = some d)
    (rest : List Char) : Takes 0 0 (c :: rest) rest := by
  have plain : c ≠ '.' ∧ c ≠ ':' ∧ c ≠ '[' := by
    refine ⟨?_, ?_, ?_⟩
    all_goals
      rintro rfl
      exact nomatch digit
  exact ⟨[c], rfl, by simp [plain], by simp [plain], by simpa using plain.2.2.symm⟩

theorem takeDigits_takes {base : Nat} {cs rest : List Char} {ds : List Nat}
    (read : takeDigits base cs = (ds, rest)) : Takes 0 0 cs rest := by
  induction cs generalizing ds with
  | nil =>
      cases read
      exact .nothing _
  | cons c cs ih =>
      unfold takeDigits at read
      split at read
      · rename_i d digit
        cases read
        exact (takes_digit digit cs).andThen (ih rfl)
      · cases read
        exact .nothing _

theorem number?_takes {base : Nat} {maxDigits : Option Nat} {leadingZero : Bool} {bound value : Nat}
    {cs rest : List Char} (read : number? base maxDigits leadingZero bound cs = some (value, rest)) :
    Takes 0 0 cs rest := by
  unfold number? at read
  generalize digits : takeDigits base cs = outcome at read
  obtain ⟨ds, left⟩ := outcome
  simp only at read
  iterate 4
    split at read
    · exact nomatch read
  cases read
  exact takeDigits_takes digits

theorem v4?_takes {cs rest : List Char} {word : UInt32} (read : v4? cs = some (word, rest)) :
    Takes 3 0 cs rest := by
  simp only [v4?, octet?, Option.bind_eq_bind, Option.bind_eq_some_iff, Option.pure_def,
    Option.some.injEq, Prod.exists, Prod.mk.injEq] at read
  obtain ⟨a, cs₁, first, cs₂, point₁, b, cs₃, second, cs₄, point₂, c, cs₅, third, cs₆, point₃, d, cs₇,
    fourth, -, rfl⟩ := read
  have start := (number?_takes first).andThen (Takes.char (by decide) point₁)
  have middle := (number?_takes second).andThen (Takes.char (by decide) point₂)
  have last := (number?_takes third).andThen (Takes.char (by decide) point₃)
  exact start.andThen (middle.andThen (last.andThen (number?_takes fourth)))

theorem afterColon?_takes {first : Bool} {cs rest : List Char}
    (read : afterColon? first cs = some rest) : Takes 0 (if first then 0 else 1) cs rest := by
  cases first with
  | true =>
      cases read
      exact .nothing _
  | false => exact Takes.char (by decide) read

/-- Each group has a colon before it, but for the first one and the second half of an IPv4 address. -/
theorem groups_takes {limit : Nat} {first embedded : Bool} {cs rest : List Char} {read : List Nat}
    (given : groups limit first cs = (read, embedded, rest)) :
    ∃ colons, Takes (if embedded then 3 else 0) colons cs rest ∧
      read.length ≤ colons + (if first then 1 else 0) + (if embedded then 1 else 0) := by
  induction limit generalizing first cs read with
  | zero =>
      cases given
      exact ⟨0, .nothing _, Nat.zero_le _⟩
  | succ limit ih =>
      unfold groups at given
      simp only at given
      split at given
      · rename_i word others found
        cases given
        have found : (afterColon? first cs).bind v4? = some (word, rest) := by
          split at found
          · exact nomatch found
          · exact found
        obtain ⟨behind, colon, four⟩ := Option.bind_eq_some_iff.mp found
        refine ⟨_, (afterColon?_takes colon).andThen (v4?_takes four), ?_⟩
        cases first <;> simp
      · split at given
        · rename_i group others found
          obtain ⟨behind, colon, number⟩ := Option.bind_eq_some_iff.mp found
          generalize more : groups limit false others = outcome at given
          obtain ⟨later, v4, left⟩ := outcome
          obtain ⟨rfl, rfl, rfl⟩ := given
          obtain ⟨colons, takes, enough⟩ := ih more
          have start := (afterColon?_takes colon).andThen (number?_takes number)
          have whole := start.andThen takes
          rw [Nat.add_zero, Nat.zero_add] at whole
          refine ⟨_, whole, ?_⟩
          cases first <;> simp at enough ⊢ <;> omega
        · cases given
          exact ⟨0, .nothing _, Nat.zero_le _⟩

/-- The marks of an address. -/
def Marks (points colons : Nat) : Prop :=
  (points = 3 ∧ colons = 0) ∨ (2 ≤ colons ∧ (points = 0 ∨ points = 3))

theorem v6?_takes {cs rest : List Char} {bits : BitVec 128} (read : v6? cs = some (bits, rest)) :
    ∃ points colons, Takes points colons cs rest ∧ 2 ≤ colons ∧ (points = 0 ∨ points = 3) := by
  unfold v6? at read
  generalize front : groups 8 true cs = outcome at read
  obtain ⟨head, embedded, left⟩ := outcome
  obtain ⟨colons, takes, enough⟩ := groups_takes front
  simp only at read
  split at read
  · rename_i all
    cases read
    refine ⟨_, colons, takes, ?_, ?_⟩
    · cases embedded <;> simp [all] at enough <;> omega
    · cases embedded <;> simp
  · split at read
    · exact nomatch read
    · rename_i plain
      simp only [Option.bind_eq_bind, Option.bind_eq_some_iff] at read
      obtain ⟨one, first, two, second, read⟩ := read
      generalize back : groups (7 - head.length) true two = outcome at read
      obtain ⟨tail, ending, left⟩ := outcome
      cases read
      obtain ⟨colons', takes', -⟩ := groups_takes back
      rw [if_neg plain] at takes
      have middle := (Takes.char (by decide) first).andThen (Takes.char (by decide) second)
      have whole := (takes.andThen middle).andThen takes'
      refine ⟨_, _, whole, ?_, ?_⟩
      · simp
        omega
      · cases ending <;> simp

theorem ip?_takes {cs rest : List Char} {ip : IpAddr} (read : ip? cs = some (ip, rest)) :
    ∃ points colons, Takes points colons cs rest ∧ Marks points colons := by
  unfold ip? at read
  split at read
  · rename_i word others four
    cases read
    exact ⟨3, 0, v4?_takes four, .inl ⟨rfl, rfl⟩⟩
  · obtain ⟨⟨bits, others⟩, six, same⟩ := Option.map_eq_some_iff.mp read
    cases same
    obtain ⟨points, colons, takes, marks⟩ := v6?_takes six
    exact ⟨points, colons, takes, .inr marks⟩

end AddressReader

theorem marks_of_parse {text : String} {ip : IpAddr} (literal : IpAddr.parse? text = some ip) :
    AddressReader.Marks (text.toList.count '.') (text.toList.count ':') ∧ '[' ∉ text.toList := by
  unfold IpAddr.parse? AddressReader.whole? at literal
  split at literal
  · rename_i value read
    obtain ⟨points, colons, ⟨taken, whole, rfl, rfl, plain⟩, marks⟩ := AddressReader.ip?_takes read
    rw [whole, List.append_nil]
    exact ⟨marks, plain⟩
  · exact nomatch literal

end Interceptor.Net
