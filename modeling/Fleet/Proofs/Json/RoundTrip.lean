import Fleet.Json.Parser
import Fleet.Json.Printer
import Fleet.Proofs.Text.Digits
import Mathlib.Algebra.Group.Int.Defs

/-!
# `Fleet.Proofs.Json.RoundTrip`: what is printed is read back

`Json.Plain` says which values survive: integers must fit 64 bits, as they do in every value
that was read, and nesting must stay within the bound of the reader. Numbers that are kept as
text are left out, nothing here writes them.

`parse?_render` is the round trip. It rests on `value?_print`, which says more: a value is read
from the front of a text that goes on with the end of a list or an object, and the reader
stops right there. Twice the length of the printed value is fuel enough.
-/

set_option autoImplicit false

namespace Fleet.Json

open Fleet.Text

/-! ### Texts -/

/-- A control character is read back from two zeros and its two digits. -/
theorem escape?_control {c : Char} (h : c.toNat < 0x20) (rest : List Char) :
    escape? ('u' :: '0' :: '0' :: hexLower (c.toNat / 16) :: hexLower (c.toNat % 16) :: rest)
      = some (c, rest) := by
  have hhigh := hexValue?_hexLower (n := c.toNat / 16) (by omega)
  have hlow := hexValue?_hexLower (n := c.toNat % 16) (by omega)
  have hquad : hexQuad? ('0' :: '0' :: hexLower (c.toNat / 16) :: hexLower (c.toNat % 16) :: rest)
      = some (c.toNat, rest) := by
    rw [hexQuad?, hhigh, hlow]
    show some (((0 * 16 + 0) * 16 + c.toNat / 16) * 16 + c.toNat % 16, rest) = _
    congr 2
    omega
  rw [escape?, hquad, Option.bind_some]
  unfold unicodeEscape?
  dsimp only
  -- A control character is no half of a surrogate pair.
  rw [if_neg (by omega), if_neg (by omega), Char.ofNat_toNat]

/-- A character is read back from its escaped form. -/
theorem textBody_escapeChar (c : Char) (fuel : Nat) (done rest : List Char) :
    textBody (fuel + 1) done (escapeChar c ++ rest) = textBody fuel (c :: done) rest := by
  have hchar (n : Nat) (h : c.toNat = n) : c = Char.ofNat n := by
    rw [← h, Char.ofNat_toNat]
  rw [escapeChar]
  -- The cases are those of the escapes, in their order.
  split
  · next h => subst h; rfl
  split
  · next h => subst h; rfl
  split
  · next h => subst h; rfl
  split
  · next h => subst h; rfl
  split
  · next h => subst h; rfl
  split
  · next h => rw [hchar 8 h]; rfl
  split
  · next h => rw [hchar 12 h]; rfl
  split
  · next hquote hslash _ _ _ _ _ hcontrol =>
    show (escape? ('u' :: '0' :: '0' :: hexLower (c.toNat / 16) ::
      hexLower (c.toNat % 16) :: rest)).bind _ = _
    rw [escape?_control hcontrol, Option.bind_some]
  · next hquote hslash _ _ _ _ _ hplain =>
    rw [List.cons_append, List.nil_append, textBody, if_neg hplain]
    · exact hquote
    · exact hslash

/-- The reader of texts comes back from an escaped text with the text itself, in front of any rest.
The fuel needs to exceed the number of characters, one for each and one for the quote. -/
theorem textBody_escaped (s : List Char) {fuel : Nat} (h : s.length < fuel)
    (done rest : List Char) :
    textBody fuel done (s.flatMap escapeChar ++ '"' :: rest)
      = some (String.ofList (done.reverse ++ s), rest) := by
  induction s generalizing fuel done with
  | nil =>
    obtain ⟨fuel, rfl⟩ : ∃ n, fuel = n + 1 := ⟨fuel - 1, by rw [List.length_nil] at h; omega⟩
    rw [List.flatMap_nil, List.nil_append, List.append_nil]
    rfl
  | cons c s ih =>
    rw [List.length_cons] at h
    obtain ⟨fuel, rfl⟩ : ∃ n, fuel = n + 1 := ⟨fuel - 1, by omega⟩
    rw [List.flatMap_cons, List.append_assoc, textBody_escapeChar, ih (by omega),
      List.reverse_cons, List.append_assoc]
    rfl

/-- An escaped character is not empty. -/
theorem one_le_length_escapeChar (c : Char) : 1 ≤ (escapeChar c).length := by
  rw [escapeChar]
  repeat' split
  all_goals exact Nat.le_add_left 1 _

/-- Escaping makes no text shorter, so a reader with fuel for the escaped text has fuel for the
text. -/
theorem length_le_length_escaped (s : List Char) : s.length ≤ (s.flatMap escapeChar).length := by
  induction s with
  | nil => exact Nat.zero_le _
  | cons c s ih =>
    rw [List.flatMap_cons, List.length_append, List.length_cons]
    have hc := one_le_length_escapeChar c
    omega

/-- A text is read back, and the reader stops after its closing quote. -/
theorem text?_escaped (s : String) (rest : List Char) :
    text? (s.toList.flatMap escapeChar ++ '"' :: rest) = some (s, rest) := by
  have hlength := length_le_length_escaped s.toList
  rw [text?, textBody_escaped s.toList (by rw [List.length_append]; omega), List.reverse_nil,
    List.nil_append, String.ofList_toList]

/-! ### Numbers -/

/-- The rest of a text after a value: nothing, or the end or the next part of a list or an
object. -/
def Ends (rest : List Char) : Prop := ∀ c ∈ rest.head?, c = ',' ∨ c = ']' ∨ c = '\x7d'

/-- What ends a number does not begin with another digit of it. -/
theorem Ends.notDigit {rest : List Char} (h : Ends rest) :
    ∀ c ∈ rest.head?, digitValue? c = none := by
  intro c hc
  rcases h c hc with rfl | rfl | rfl <;> rfl

/-- Digits of a positive number do not start with zero. -/
theorem head?_toDigits_ne_zero {n : Nat} (h : 0 < n) :
    (Nat.toDigits 10 n).head? ≠ some '0' := by
  induction n using Nat.strongRecOn with
  | ind n ih =>
    by_cases hlt : n < 10
    · rw [Nat.toDigits_of_lt_base hlt, List.head?_cons]
      intro he
      have hzero := Nat.digitChar_eq_zero.1 (Option.some.inj he)
      omega
    · rw [Nat.toDigits_of_base_le (by omega) (by omega)]
      have hfront := ih (n / 10) (by omega) (by omega)
      cases hdigits : Nat.toDigits 10 (n / 10) with
      | nil => exact absurd hdigits Nat.toDigits_ne_nil
      | cons c rest =>
        rw [hdigits] at hfront
        exact hfront

/-- There is no needless zero in front of a number. -/
theorem needlessZero_repr (n : Nat) :
    (decide (n.repr.toList.length > 1) && n.repr.toList.head? == some '0') = false := by
  rw [Nat.toList_repr, Bool.and_eq_false_iff]
  rcases Nat.eq_zero_or_pos n with rfl | hpos
  · exact .inl (by decide)
  · exact .inr (beq_eq_false_iff_ne.2 (head?_toDigits_ne_zero hpos))

/-- A whole number is read without a fraction and without an exponent. -/
theorem fractionAndExponent?_of_ends {rest : List Char} (h : Ends rest) :
    fractionAndExponent? rest = some ([], rest) := by
  cases rest with
  | nil => rfl
  | cons c rest => rcases h c rfl with rfl | rfl | rfl <;> rfl

/-- The text of a natural number begins with a digit. -/
theorem head_repr (n : Nat) : ∃ c rest, n.repr.toList = c :: rest ∧ c.isDigit = true := by
  cases h : n.repr.toList with
  | nil =>
    rw [Nat.toList_repr] at h
    exact absurd h Nat.toDigits_ne_nil
  | cons c rest => exact ⟨c, rest, rfl, isDigit_of_mem_repr (by rw [h]; exact List.mem_cons_self)⟩

/-- What `number?` does after the sign. -/
theorem number?_digits (n : Nat) {rest : List Char} (h : Ends rest) (negative : Bool) :
    (match (n.repr.toList, rest) with
      | (digits, cs) =>
        if digits.isEmpty || (decide (digits.length > 1) && digits.head? == some '0') then none
        else do
          let (tail, rest) ← fractionAndExponent? cs
          some (numberValue negative digits tail, rest))
      = some (numberValue negative n.repr.toList [], rest) := by
  obtain ⟨c, digits, hrepr, -⟩ := head_repr n
  have hsome : n.repr.toList.isEmpty = false := by rw [hrepr]; rfl
  dsimp only
  rw [hsome, Bool.false_or, needlessZero_repr, if_neg Bool.false_ne_true,
    fractionAndExponent?_of_ends h]
  rfl

/-- The digits of a number are read up to where it ends. -/
theorem spanDigits_repr (n : Nat) {rest : List Char} (h : Ends rest) :
    spanDigits (n.repr.toList ++ rest) = (n.repr.toList, rest) := by
  have hdigits : ∀ c ∈ n.repr.toList, c.isDigit = true := fun c hc => isDigit_of_mem_repr hc
  obtain ⟨htake, hdrop⟩ := span_digits hdigits h.notDigit
  rw [spanDigits, htake, hdrop]

/-- An integer of 64 bits is read back if the text ends or goes on after it. -/
theorem number?_intText {i : Int} (low : -(2 ^ 63) ≤ i) (high : i < 2 ^ 64) {rest : List Char}
    (h : Ends rest) : number? ((intText i).toList ++ rest) = some (.int i, rest) := by
  rw [intText]
  split
  · next hneg =>
    have hvalue : numberValue true i.natAbs.repr.toList [] = .int i := by
      rw [numberValue, readDigits_repr, if_neg (by simp)]
      dsimp only [UInt64.size]
      rw [if_pos rfl, if_neg (by omega), show -((i.natAbs : Nat) : Int) = i by omega]
    rw [String.toList_append, List.append_assoc]
    show number? ('-' :: (i.natAbs.repr.toList ++ rest)) = _
    rw [number?, spanDigits_repr _ h, ← hvalue]
    exact number?_digits _ h true
  · next hpos =>
    have hvalue : numberValue false i.natAbs.repr.toList [] = .int i := by
      rw [numberValue, readDigits_repr, if_neg (by simp)]
      dsimp only [UInt64.size]
      rw [if_neg Bool.false_ne_true, if_pos (by omega),
        show ((i.natAbs : Nat) : Int) = i by omega]
    rw [number?]
    · rw [spanDigits_repr _ h, ← hvalue]
      exact number?_digits _ h false
    -- The first character is a digit, so the branch of the sign is not taken.
    · obtain ⟨c, digits, hrepr, hc⟩ := head_repr i.natAbs
      intro rest' heq
      rw [hrepr] at heq
      rw [(List.cons.inj heq).1] at hc
      exact absurd hc (by decide)

/-- The first character of an integer. -/
theorem head_intText (i : Int) : ∃ c rest, (intText i).toList = c :: rest ∧
    (c = '-' ∨ c.isDigit = true) := by
  rw [intText]
  split
  · exact ⟨'-', _, String.toList_append, .inl rfl⟩
  · obtain ⟨c, rest, hrepr, hc⟩ := head_repr i.natAbs
    exact ⟨c, rest, hrepr, .inr hc⟩

/-! ### Values -/

/-- Before what is no space there is nothing to skip. -/
theorem skipSpace_cons {c : Char} (h : isSpace c = false) (cs : List Char) :
    skipSpace (c :: cs) = c :: cs := by
  rw [skipSpace, List.dropWhile_cons, h]
  rfl

/-- The first character of a number is none of those that other values begin with. -/
theorem sign_or_digit_ne {c : Char} (h : c = '-' ∨ c.isDigit = true) {d : Char}
    (hd : d ≠ '-' ∧ d.isDigit = false) : c ≠ d := by
  rintro rfl
  rcases h with h | h
  · exact hd.1 h
  · rw [hd.2] at h
    cases h

/-- The first character of a number is no space. -/
theorem isSpace_of_sign_or_digit {c : Char} (h : c = '-' ∨ c.isDigit = true) :
    isSpace c = false := by
  rw [isSpace, beq_false_of_ne (sign_or_digit_ne h (by decide)),
    beq_false_of_ne (sign_or_digit_ne h (by decide)),
    beq_false_of_ne (sign_or_digit_ne h (by decide)),
    beq_false_of_ne (sign_or_digit_ne h (by decide))]
  rfl

/-- A sign or a digit starts a number. -/
theorem value?_of_number {c : Char} (h : c = '-' ∨ c.isDigit = true) (fuel depth : Nat)
    (cs : List Char) : value? (fuel + 1) depth (c :: cs) = number? (c :: cs) := by
  rw [value?, skipSpace_cons (isSpace_of_sign_or_digit h)]
  split
  · next heq => cases heq
  · next heq => exact absurd (List.cons.inj heq).1 (sign_or_digit_ne h (by decide))
  · next heq => exact absurd (List.cons.inj heq).1 (sign_or_digit_ne h (by decide))
  · next heq => exact absurd (List.cons.inj heq).1 (sign_or_digit_ne h (by decide))
  · next heq => exact absurd (List.cons.inj heq).1 (sign_or_digit_ne h (by decide))
  · next heq => exact absurd (List.cons.inj heq).1 (sign_or_digit_ne h (by decide))
  · next heq => exact absurd (List.cons.inj heq).1 (sign_or_digit_ne h (by decide))
  · rfl

/-- Values that are read back: integers fit 64 bits, and no more than `depth` lists and objects
stand around any value. -/
inductive Plain : (depth : Nat) → Json → Prop where
  | null {depth : Nat} : Plain depth .null
  | bool {depth : Nat} (b : Bool) : Plain depth (.bool b)
  | int {depth : Nat} {i : Int} (low : -(2 ^ 63) ≤ i) (high : i < 2 ^ 64) : Plain depth (.int i)
  | str {depth : Nat} (s : String) : Plain depth (.str s)
  | arr {depth : Nat} {items : List Json} (h : ∀ v ∈ items, Plain depth v) :
      Plain (depth + 1) (.arr items)
  | obj {depth : Nat} {members : List (String × Json)} (h : ∀ m ∈ members, Plain depth m.2) :
      Plain (depth + 1) (.obj members)

/-- A value is read from the front of a text, with fuel enough. -/
def ReadsBack (depth : Nat) (v : Json) : Prop :=
  ∀ {fuel : Nat} {rest : List Char}, 2 * (print v).length ≤ fuel → Ends rest →
    value? fuel depth (print v ++ rest) = some (v, rest)

/-- Behind an item of a list comes a comma or a bracket, which ends a number. -/
theorem ends_printItems (items : List Json) (rest : List Char) :
    Ends (printItems items ++ rest) := by
  cases items with
  | nil => intro c hc; cases hc; exact .inr (.inl rfl)
  | cons v items => intro c hc; cases hc; exact .inl rfl

/-- Behind a member of an object comes a comma or a brace, which ends a number. -/
theorem ends_printMembers (members : List (String × Json)) (rest : List Char) :
    Ends (printMembers members ++ rest) := by
  cases members with
  | nil => intro c hc; cases hc; exact .inr (.inr rfl)
  | cons m members => intro c hc; cases hc; exact .inl rfl

/-- The items of a list are read back if each of them is. It is an induction on the items, with fuel
for the text that is left. -/
theorem items?_print {depth : Nat} {v : Json} {items : List Json}
    (h : ∀ w ∈ v :: items, ReadsBack depth w) {fuel : Nat} {rest : List Char}
    (hfuel : 2 * (print v ++ printItems items).length ≤ fuel + 1) :
    items? (fuel + 1) depth (print v ++ (printItems items ++ rest)) = some (v :: items, rest) := by
  induction items generalizing v fuel with
  | nil =>
    rw [printItems, List.length_append, List.length_singleton] at hfuel
    have hread : value? fuel depth (print v ++ (printItems [] ++ rest))
        = some (v, printItems [] ++ rest) :=
      h v List.mem_cons_self (by omega) (ends_printItems [] rest)
    rw [items?, hread]
    rfl
  | cons w items ih =>
    rw [printItems, List.length_append, List.length_append, List.length_cons] at hfuel
    have hread : value? fuel depth (print v ++ (printItems (w :: items) ++ rest))
        = some (v, printItems (w :: items) ++ rest) :=
      h v List.mem_cons_self (by omega) (ends_printItems (w :: items) rest)
    -- The comma leaves fuel for the further values.
    obtain ⟨fuel, rfl⟩ : ∃ n, fuel = n + 1 := ⟨fuel - 1, by omega⟩
    have hrest : items? (fuel + 1) depth (print w ++ (printItems items ++ rest))
        = some (w :: items, rest) :=
      ih (fun u hu => h u (List.mem_cons_of_mem _ hu)) (by rw [List.length_append]; omega)
    rw [items?, hread]
    show (items? (fuel + 1) depth (print w ++ printItems items ++ rest)).map _ = _
    rw [List.append_assoc, hrest]
    rfl

/-- A printed text in front of a rest is a quote, the escaped characters, a quote and the rest. -/
theorem printText_append (n : String) (rest : List Char) :
    printText n ++ rest = '"' :: (n.toList.flatMap escapeChar ++ '"' :: rest) := by
  rw [printText, List.cons_append, List.cons_append, List.append_assoc, List.singleton_append]

/-- A member is read from the front of a text, and what follows it decides. -/
theorem members?_member {fuel depth : Nat} {m : String × Json} {rest : List Char}
    (h : value? fuel depth (print m.2 ++ rest) = some (m.2, rest)) :
    members? (fuel + 1) depth (printText m.1 ++ ':' :: (print m.2 ++ rest))
      = match skipSpace rest with
        | '\x7d' :: rest => some ([m], rest)
        | ',' :: rest => (members? fuel depth rest).map fun (ms, rest) => (m :: ms, rest)
        | _ => none := by
  rw [members?, printText_append, skipSpace_cons rfl]
  show (text? (m.1.toList.flatMap escapeChar ++ '"' :: ':' :: (print m.2 ++ rest))).bind _ = _
  rw [text?_escaped, Option.bind_some]
  show (value? fuel depth (print m.2 ++ rest)).bind _ = _
  rw [h]
  rfl

/-- The members of an object are read back if the value of each is. It is an induction on the
members, with fuel for the text that is left. -/
theorem members?_print {depth : Nat} {m : String × Json} {members : List (String × Json)}
    (h : ∀ m' ∈ m :: members, ReadsBack depth m'.2) {fuel : Nat} {rest : List Char}
    (hfuel : 2 * (print m.2 ++ printMembers members).length ≤ fuel + 1) :
    members? (fuel + 1) depth
        (printText m.1 ++ ':' :: (print m.2 ++ (printMembers members ++ rest)))
      = some (m :: members, rest) := by
  induction members generalizing m fuel with
  | nil =>
    rw [printMembers, List.length_append, List.length_singleton] at hfuel
    have hread : value? fuel depth (print m.2 ++ (printMembers [] ++ rest))
        = some (m.2, printMembers [] ++ rest) :=
      h m List.mem_cons_self (by omega) (ends_printMembers [] rest)
    rw [members?_member hread]
    rfl
  | cons m' members ih =>
    rw [printMembers] at hfuel ⊢
    simp only [List.length_append, List.length_cons] at hfuel
    have hread : value? fuel depth (print m.2 ++ (printMembers (m' :: members) ++ rest))
        = some (m.2, printMembers (m' :: members) ++ rest) :=
      h m List.mem_cons_self (by omega) (ends_printMembers (m' :: members) rest)
    -- The comma and the next name cost fuel as well.
    obtain ⟨fuel, rfl⟩ : ∃ n, fuel = n + 1 := ⟨fuel - 1, by omega⟩
    have hrest : members? (fuel + 1) depth
        (printText m'.1 ++ ':' :: (print m'.2 ++ (printMembers members ++ rest)))
          = some (m' :: members, rest) :=
      ih (fun u hu => h u (List.mem_cons_of_mem _ hu)) (by rw [List.length_append]; omega)
    rw [printMembers] at hread
    rw [members?_member hread]
    show (members? (fuel + 1) depth
      (printText m'.1 ++ ':' :: print m'.2 ++ printMembers members ++ rest)).map _ = _
    rw [List.append_assoc, List.append_assoc, List.cons_append, hrest]
    rfl

/-- A value starts with a character that is neither a space nor the end of a list. -/
theorem head_print {depth : Nat} {v : Json} (h : Plain depth v) :
    ∃ c cs, print v = c :: cs ∧ isSpace c = false ∧ c ≠ ']' := by
  cases h with
  | null => exact ⟨'n', _, rfl, rfl, by decide⟩
  | bool b =>
    cases b with
    | false => exact ⟨'f', _, rfl, rfl, by decide⟩
    | true => exact ⟨'t', _, rfl, rfl, by decide⟩
  | @int _ i low high =>
    obtain ⟨c, cs, hcs, hc⟩ := head_intText i
    exact ⟨c, cs, hcs, isSpace_of_sign_or_digit hc, sign_or_digit_ne hc (by decide)⟩
  | str s => exact ⟨'"', _, rfl, rfl, by decide⟩
  | @arr _ items h =>
    cases items with
    | nil => exact ⟨'[', _, rfl, rfl, by decide⟩
    | cons v items => exact ⟨'[', _, rfl, rfl, by decide⟩
  | @obj _ members h =>
    cases members with
    | nil => exact ⟨'\x7b', _, rfl, rfl, by decide⟩
    | cons m members => exact ⟨'\x7b', _, rfl, rfl, by decide⟩

/-- Fuel for a value that is not empty is not zero. -/
theorem ReadsBack.of_succ {depth : Nat} {v : Json} (hplain : Plain depth v)
    (h : ∀ {fuel : Nat} {rest : List Char}, 2 * (print v).length ≤ fuel + 1 → Ends rest →
      value? (fuel + 1) depth (print v ++ rest) = some (v, rest)) : ReadsBack depth v := by
  intro fuel rest hfuel hends
  obtain ⟨c, cs, hcs, -⟩ := head_print hplain
  obtain ⟨fuel, rfl⟩ : ∃ n, fuel = n + 1 :=
    ⟨fuel - 1, by rw [hcs, List.length_cons] at hfuel; omega⟩
  exact h hfuel hends

/-- A list is read if its values are. -/
theorem ReadsBack.arr {depth : Nat} {items : List Json} (h : ∀ v ∈ items, Plain depth v)
    (ih : ∀ v ∈ items, ReadsBack depth v) : ReadsBack (depth + 1) (.arr items) := by
  refine ReadsBack.of_succ (.arr h) fun {fuel rest} hfuel _ => ?_
  cases items with
  | nil => rfl
  | cons v items =>
    rw [print, List.cons_append, List.length_cons] at hfuel
    -- The bracket leaves fuel for the values.
    obtain ⟨fuel, rfl⟩ : ∃ n, fuel = n + 1 := ⟨fuel - 1, by omega⟩
    have hitems : items? (fuel + 1) depth (print v ++ (printItems items ++ rest))
        = some (v :: items, rest) := items?_print ih (by omega)
    -- The first value does not start like the end of the list.
    obtain ⟨c, cs, hcs, hspace, hend⟩ := head_print (h v List.mem_cons_self)
    rw [hcs, List.cons_append] at hitems
    rw [print, List.cons_append, List.cons_append, List.append_assoc, hcs, value?,
      skipSpace_cons rfl]
    simp only [List.cons_append, skipSpace_cons hspace]
    split
    · next heq => exact absurd (List.cons.inj heq).1 hend
    · rw [hitems]
      rfl

/-- An object is read if the values of its members are. -/
theorem ReadsBack.obj {depth : Nat} {members : List (String × Json)}
    (h : ∀ m ∈ members, Plain depth m.2) (ih : ∀ m ∈ members, ReadsBack depth m.2) :
    ReadsBack (depth + 1) (.obj members) := by
  refine ReadsBack.of_succ (.obj h) fun {fuel rest} hfuel _ => ?_
  cases members with
  | nil => rfl
  | cons m members =>
    rw [print] at hfuel
    simp only [List.length_append, List.length_cons] at hfuel
    obtain ⟨fuel, rfl⟩ : ∃ n, fuel = n + 1 := ⟨fuel - 1, by omega⟩
    have hmembers : members? (fuel + 1) depth
        (printText m.1 ++ ':' :: (print m.2 ++ (printMembers members ++ rest)))
          = some (m :: members, rest) :=
      members?_print ih (by rw [List.length_append]; omega)
    rw [printText_append] at hmembers
    rw [print]
    simp only [List.cons_append, List.append_assoc]
    rw [printText_append, value?, skipSpace_cons rfl]
    show (members? (fuel + 1) depth _).map (fun (ms, rest) => (Json.obj ms, rest)) = _
    rw [hmembers]
    rfl

/-- Every plain value is read from the front of a text. -/
theorem value?_print {depth : Nat} {v : Json} (h : Plain depth v) : ReadsBack depth v := by
  induction h with
  | null => exact ReadsBack.of_succ .null fun _ _ => rfl
  | bool b =>
    refine ReadsBack.of_succ (.bool b) fun _ _ => ?_
    cases b <;> rfl
  | @int _ i low high =>
    refine ReadsBack.of_succ (.int low high) fun {fuel rest} _ hends => ?_
    have hnumber := number?_intText low high hends
    obtain ⟨c, cs, hcs, hc⟩ := head_intText i
    -- A number is told from other values by its first character.
    rw [hcs] at hnumber
    rw [print, hcs, List.cons_append, value?_of_number hc]
    exact hnumber
  | str s =>
    refine ReadsBack.of_succ (.str s) fun {fuel rest} _ _ => ?_
    rw [print, printText_append, value?, skipSpace_cons rfl]
    show (text? (s.toList.flatMap escapeChar ++ '"' :: rest)).map _ = _
    rw [text?_escaped]
    rfl
  | arr h ih => exact ReadsBack.arr h ih
  | obj h ih => exact ReadsBack.obj h ih

/-- What is printed is read back. -/
theorem parse?_render {v : Json} (h : Plain maxDepth v) : parse? v.render = some v := by
  have hread : value? (2 * (print v).length + 2) maxDepth (print v ++ []) = some (v, []) :=
    value?_print h (by omega) (fun c hc => by cases hc)
  rw [List.append_nil] at hread
  rw [parse?, render, String.toList_ofList, hread]
  rfl

end Fleet.Json
