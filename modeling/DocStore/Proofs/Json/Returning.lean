import DocStore.Json.Reader
import DocStore.Json.Text
import Mathlib.Data.List.TakeWhile

/-!
# Values that are read back

What is written for a value is read back as the value (`read_text`) if it is one that can
travel (`Travels`): its integers have 64 bits, the members of its objects stand in order, its
floating-point numbers are read back, and it is not nested too deep.

A reader takes what is its own and leaves the rest.  For numbers this is shown of everything
that they are read from (`readNumber_append`), since a floating-point number is not read by
its digits alone; for strings, items and members of what is written for them.
-/

namespace DocStore

namespace Json

/-! ## Numbers -/

/-- No number goes on here. -/
def Stops (rest : List Char) : Prop :=
  ∀ c, rest.head? = some c → c.isDigit = false ∧ c ∉ ['.', 'e', 'E']

section Numbers

variable {rest xs ys : List Char} {negative : Bool} {m : Nat} {e : Int} {n : Number}

theorem takeWhile_isDigit_append (h : Stops rest) (xs : List Char) :
    (xs ++ rest).takeWhile Char.isDigit = xs.takeWhile Char.isDigit := by
  induction xs with
  | nil =>
    cases rest with
    | nil => rfl
    | cons c after => simp [(h c rfl).1]
  | cons x xs ih => cases hx : x.isDigit <;> simp [hx, ih]

theorem dropWhile_isDigit_append (h : Stops rest) (xs : List Char) :
    (xs ++ rest).dropWhile Char.isDigit = xs.dropWhile Char.isDigit ++ rest := by
  induction xs with
  | nil =>
    cases rest with
    | nil => rfl
    | cons c after => simp [(h c rfl).1]
  | cons x xs ih => cases hx : x.isDigit <;> simp [hx, ih]

theorem realOfParts_append (h : realOfParts negative m e xs = .ok (n, ys)) (rest : List Char) :
    realOfParts negative m e (xs ++ rest) = .ok (n, ys ++ rest) := by
  rw [realOfParts] at h ⊢
  split at h
  · obtain ⟨rfl, rfl⟩ := Prod.mk.inj (Except.ok.inj h)
    rfl
  · cases h

/-- The sign of an exponent, and what is behind it. -/
def signed : List Char → Bool × List Char
  | '+' :: rest => (false, rest)
  | '-' :: rest => (true, rest)
  | rest => (false, rest)

/-- The digits of an exponent, whose sign was read. -/
def readPower (negative : Bool) (m : Nat) (e : Int) (down : Bool) (rest : List Char) :
    Except Fault (Number × List Char) :=
  match rest with
  | [] => failAt .endInValue []
  | c :: after =>
      if !c.isDigit then .error ⟨.invalidNumber, byteCount rest - 1⟩
      else
        let after := after.dropWhile Char.isDigit
        match exponentDigits 0 (rest.takeWhile Char.isDigit) with
        | (n, none) => realOfParts negative m (if down then e - n else e + n) after
        | (_, some more) =>
            if m ≠ 0 ∧ !down then failAt .numberOutOfRange (more ++ after)
            else .ok (.real (if negative then .negativeZero else .zero), after)

theorem readExponent_eq (negative : Bool) (m : Nat) (e : Int) (rest : List Char) :
    readExponent negative m e rest = readPower negative m e (signed rest).1 (signed rest).2 := rfl

theorem signed_append {c : Char} (xs rest : List Char) :
    signed (c :: xs ++ rest) = ((signed (c :: xs)).1, (signed (c :: xs)).2 ++ rest) := by
  by_cases hplus : c = '+'
  · subst hplus
    rfl
  · by_cases hminus : c = '-'
    · subst hminus
      rfl
    · simp [signed, hplus, hminus]

theorem readPower_append {down : Bool} (hrest : Stops rest)
    (h : readPower negative m e down xs = .ok (n, ys)) :
    readPower negative m e down (xs ++ rest) = .ok (n, ys ++ rest) := by
  cases xs with
  | nil => cases h
  | cons c after =>
    have htake := takeWhile_isDigit_append hrest (c :: after)
    have hdrop := dropWhile_isDigit_append hrest after
    rw [List.cons_append] at htake ⊢
    simp only [readPower, htake, hdrop] at h ⊢
    cases hdigit : c.isDigit with
    | false =>
      rw [hdigit] at h
      cases h
    | true =>
      simp only [hdigit, Bool.not_true, Bool.false_eq_true, if_false] at h ⊢
      rcases hpower : exponentDigits 0 ((c :: after).takeWhile Char.isDigit) with ⟨k, _ | more⟩
      · rw [hpower] at h
        exact realOfParts_append h rest
      · rw [hpower] at h
        dsimp only at h ⊢
        split at h
        · cases h
        · rename_i hsmall
          obtain ⟨rfl, rfl⟩ := Prod.mk.inj (Except.ok.inj h)
          rw [if_neg hsmall]

theorem readExponent_append (hrest : Stops rest)
    (h : readExponent negative m e xs = .ok (n, ys)) :
    readExponent negative m e (xs ++ rest) = .ok (n, ys ++ rest) := by
  cases xs with
  | nil => cases h
  | cons c after =>
    rw [readExponent_eq] at h ⊢
    rw [signed_append]
    exact readPower_append hrest h

/-- The exponent of a number, if there is one. -/
theorem readScale_of_ne (hxs : ∀ after, xs ≠ 'e' :: after ∧ xs ≠ 'E' :: after) :
    readScale negative m e xs = realOfParts negative m e xs := by
  rw [readScale.eq_def]
  split
  · exact absurd rfl (hxs _).1
  · exact absurd rfl (hxs _).2
  · rfl

theorem Stops.ne_cons (h : Stops rest) {c : Char} (hc : c ∈ ['.', 'e', 'E']) (after : List Char) :
    rest ≠ c :: after := by
  rintro rfl
  exact (h c rfl).2 hc

theorem readScale_append (hrest : Stops rest) (h : readScale negative m e xs = .ok (n, ys)) :
    readScale negative m e (xs ++ rest) = .ok (n, ys ++ rest) := by
  rw [readScale.eq_def] at h
  split at h
  · exact readExponent_append hrest h
  · exact readExponent_append hrest h
  · rename_i hlower hupper
    rw [readScale_of_ne]
    · exact realOfParts_append h rest
    · intro after
      cases xs with
      | nil => exact ⟨hrest.ne_cons (by decide) after, hrest.ne_cons (by decide) after⟩
      | cons c xs => simp_all

theorem readFraction_append (hrest : Stops rest)
    (h : readFraction negative m e xs = .ok (n, ys)) :
    readFraction negative m e (xs ++ rest) = .ok (n, ys ++ rest) := by
  rw [readFraction] at h ⊢
  rw [takeWhile_isDigit_append hrest, dropWhile_isDigit_append hrest]
  cases hdigits : (xs.takeWhile Char.isDigit).isEmpty with
  | true =>
    rw [hdigits] at h
    cases h
  | false =>
    rw [hdigits] at h
    exact readScale_append hrest h

/-- A number that ends with its digits, of which these are left over. -/
def readWhole (negative : Bool) (m : Nat) (unused : List Char) (rest : List Char) :
    Except Fault (Number × List Char) :=
  if unused ≠ [] then realOfParts negative m unused.length rest
  else if !negative then .ok (.integer m, rest)
  else if m = 0 ∨ 0x8000000000000000 < m then realOfParts true m 0 rest
  else .ok (.integer (-m), rest)

/-- What is behind the digits of a number. -/
def readBehind (negative : Bool) (m : Nat) (unused : List Char) (rest : List Char) :
    Except Fault (Number × List Char) :=
  match rest with
  | '.' :: rest => readFraction negative m unused.length rest
  | 'e' :: _ | 'E' :: _ => readScale negative m unused.length rest
  | rest => readWhole negative m unused rest

theorem readAfterDigits_eq (negative : Bool) (digits rest : List Char) :
    readAfterDigits negative digits rest =
      readBehind negative (fitDigits 0 digits).1 (fitDigits 0 digits).2 rest := rfl

theorem readWhole_append {unused : List Char} (h : readWhole negative m unused xs = .ok (n, ys))
    (rest : List Char) : readWhole negative m unused (xs ++ rest) = .ok (n, ys ++ rest) := by
  rw [readWhole] at h ⊢
  split at h
  · rename_i hlong
    rw [if_pos hlong]
    exact realOfParts_append h rest
  · rename_i hshort
    rw [if_neg hshort]
    split at h
    · rename_i hsign
      obtain ⟨rfl, rfl⟩ := Prod.mk.inj (Except.ok.inj h)
      rw [if_pos hsign]
    · rename_i hsign
      rw [if_neg hsign]
      split at h
      · rename_i hbeyond
        rw [if_pos hbeyond]
        exact realOfParts_append h rest
      · rename_i hwithin
        obtain ⟨rfl, rfl⟩ := Prod.mk.inj (Except.ok.inj h)
        rw [if_neg hwithin]

theorem readBehind_of_ne {unused : List Char}
    (hxs : ∀ c ∈ ['.', 'e', 'E'], ∀ after, xs ≠ c :: after) :
    readBehind negative m unused xs = readWhole negative m unused xs := by
  rw [readBehind.eq_def]
  split
  · exact absurd rfl (hxs '.' (by decide) _)
  · exact absurd rfl (hxs 'e' (by decide) _)
  · exact absurd rfl (hxs 'E' (by decide) _)
  · rfl

theorem readBehind_append {unused : List Char} (hrest : Stops rest)
    (h : readBehind negative m unused xs = .ok (n, ys)) :
    readBehind negative m unused (xs ++ rest) = .ok (n, ys ++ rest) := by
  rw [readBehind.eq_def] at h
  split at h
  · exact readFraction_append hrest h
  · exact readScale_append hrest h
  · exact readScale_append hrest h
  · rename_i hpoint hlower hupper
    rw [readBehind_of_ne]
    · exact readWhole_append h rest
    · intro c hc after
      cases xs with
      | nil => exact hrest.ne_cons hc after
      | cons x xs =>
        simp only [List.mem_cons, List.not_mem_nil, or_false] at hc
        rcases hc with rfl | rfl | rfl <;> simp_all

theorem readAfterDigits_append {digits : List Char} (hrest : Stops rest)
    (h : readAfterDigits negative digits xs = .ok (n, ys)) :
    readAfterDigits negative digits (xs ++ rest) = .ok (n, ys ++ rest) :=
  readBehind_append hrest h

/-- A number that does not start with a zero. -/
theorem readNumber_of_ne_zero {c : Char} (hzero : c ≠ '0') (after : List Char) :
    readNumber negative (c :: after) =
      if c.isDigit then
        readAfterDigits negative ((c :: after).takeWhile Char.isDigit)
          ((c :: after).dropWhile Char.isDigit)
      else .error ⟨.invalidNumber, byteCount (c :: after) - 1⟩ := by
  rw [readNumber.eq_def]
  split
  · rename_i heq
    exact absurd heq (List.cons_ne_nil _ _)
  · rename_i heq
    exact absurd (List.cons.inj heq).1 hzero
  · rename_i heq
    obtain ⟨rfl, -⟩ := List.cons.inj heq
    rfl

/-- A zero is a number of its own. -/
theorem readNumber_zero {after : List Char}
    (hafter : ∀ c, after.head? = some c → c.isDigit = false) :
    readNumber negative ('0' :: after) = readAfterDigits negative ['0'] after := by
  cases after with
  | nil => rfl
  | cons c after =>
    have hc := hafter c rfl
    simp only [readNumber, hc]
    rfl

/-- A number that is read to its end is read where something else is behind it, too. -/
theorem readNumber_append (hrest : Stops rest) (h : readNumber negative xs = .ok (n, ys)) :
    readNumber negative (xs ++ rest) = .ok (n, ys ++ rest) := by
  cases xs with
  | nil => cases h
  | cons c after =>
    by_cases hzero : c = '0'
    · subst hzero
      have hdigit : ∀ c, after.head? = some c → c.isDigit = false := by
        intro c hc
        cases after with
        | nil => cases hc
        | cons d after =>
          obtain rfl := Option.some.inj hc
          refine Bool.eq_false_iff.2 fun hd => ?_
          simp only [readNumber, hd, if_true] at h
          cases h
      rw [readNumber_zero hdigit] at h
      rw [List.cons_append, readNumber_zero]
      · exact readAfterDigits_append hrest h
      · intro c hc
        cases after with
        | nil => exact (hrest c hc).1
        | cons d after => exact hdigit c hc
    · rw [readNumber_of_ne_zero hzero] at h
      rw [List.cons_append, readNumber_of_ne_zero hzero, ← List.cons_append,
        takeWhile_isDigit_append hrest, dropWhile_isDigit_append hrest]
      split at h
      · rename_i hdigit
        rw [if_pos hdigit]
        exact readAfterDigits_append hrest h
      · cases h

/-- Digits of which none is too much. -/
theorem fitDigits_eq {digits : List Char} (h : Nat.ofDigitChars 10 digits m < 0x10000000000000000) :
    fitDigits m digits = (Nat.ofDigitChars 10 digits m, []) := by
  induction digits generalizing m with
  | nil => rfl
  | cons c digits ih =>
    rw [Nat.ofDigitChars_cons] at h ⊢
    have hle : 10 * m + digitValue c ≤ Nat.ofDigitChars 10 digits (10 * m + digitValue c) := by
      rw [Nat.ofDigitChars_eq_ofDigitChars_zero]
      exact Nat.le_add_right_of_le (Nat.le_mul_of_pos_left _ (Nat.pow_pos (by decide)))
    rw [fitDigits, if_pos (Nat.lt_of_le_of_lt hle h)]
    exact ih h

theorem head?_toDigits_ne_zero {k : Nat} (h : 0 < k) : (Nat.toDigits 10 k).head? ≠ some '0' := by
  induction k using Nat.strongRecOn with
  | _ k ih =>
    by_cases hk : k < 10
    · rw [Nat.toDigits_of_lt_base hk, List.head?_cons]
      have hall : ∀ k < 10, 0 < k → some (Nat.digitChar k) ≠ some '0' := by decide
      exact hall k hk h
    · rw [Nat.toDigits_of_base_le (by decide) (Nat.le_of_not_lt hk), List.head?_append]
      have hhead := ih (k / 10) (by omega) (by omega)
      cases hdigits : Nat.toDigits 10 (k / 10) with
      | nil => exact absurd hdigits Nat.toDigits_ne_nil
      | cons c digits =>
        rw [hdigits] at hhead
        exact hhead

/-- The digits of a natural number are read to their end. -/
theorem readNumber_toDigits {k : Nat} (h : k < 0x10000000000000000) :
    readNumber negative (Nat.toDigits 10 k) = readWhole negative k [] [] := by
  have hvalue : Nat.ofDigitChars 10 (Nat.toDigits 10 k) 0 = k := Nat.ofDigitChars_ten_toDigits
  have hfit : fitDigits 0 (Nat.toDigits 10 k) = (k, []) := by
    rw [fitDigits_eq (by rwa [hvalue]), hvalue]
  have hrest : readAfterDigits negative (Nat.toDigits 10 k) [] = readWhole negative k [] [] := by
    rw [readAfterDigits_eq, hfit]
    rfl
  have hall : ∀ c ∈ Nat.toDigits 10 k, c.isDigit = true := fun c hc =>
    Nat.isDigit_of_mem_toDigits (by decide) (by decide) hc
  by_cases hk : k = 0
  · subst hk
    exact hrest
  · cases hdigits : Nat.toDigits 10 k with
    | nil => exact absurd hdigits Nat.toDigits_ne_nil
    | cons c digits =>
      have hhead := head?_toDigits_ne_zero (Nat.pos_of_ne_zero hk)
      rw [hdigits] at hhead hall hrest
      rw [readNumber_of_ne_zero fun hc => hhead (congrArg some hc),
        if_pos (hall c List.mem_cons_self),
        List.takeWhile_eq_self_iff.2 hall, List.dropWhile_eq_nil_iff.2 hall]
      exact hrest

end Numbers

/-- A number with its sign. -/
def readSigned : List Char → Except Fault (Number × List Char)
  | '-' :: rest => readNumber true rest
  | rest => readNumber false rest

end Json

namespace Number

open Json

/-- The number is read from what is written for it. -/
def Travels (n : Number) : Prop := readSigned (numberText n).toList = .ok (n, [])

/-- Integers with 64 bits travel. -/
theorem travels_integer {n : Int} (hlow : -0x8000000000000000 ≤ n)
    (hhigh : n < 0x10000000000000000) : (integer n).Travels := by
  cases n with
  | ofNat k =>
    have hk : k < 0x10000000000000000 := by
      have hcast : (k : Int) < 0x10000000000000000 := hhigh
      omega
    have htext : (numberText (integer (Int.ofNat k))).toList = Nat.toDigits 10 k := by
      exact Nat.toList_repr
    have hread : readNumber false (Nat.toDigits 10 k) = .ok (.integer k, []) :=
      readNumber_toDigits hk
    rw [Travels, htext]
    cases hdigits : Nat.toDigits 10 k with
    | nil => exact absurd hdigits Nat.toDigits_ne_nil
    | cons c digits =>
      have hc : c.isDigit = true :=
        Nat.isDigit_of_mem_toDigits (b := 10) (n := k) (by decide) (by decide)
          (hdigits ▸ List.mem_cons_self)
      rw [hdigits] at hread
      rw [readSigned.eq_def]
      split
      · rename_i heq
        obtain ⟨rfl, -⟩ := List.cons.inj heq
        cases hc
      · exact hread
  | negSucc k =>
    have hk : k + 1 ≤ 0x8000000000000000 := by omega
    have htext :
        (numberText (integer (Int.negSucc k))).toList = '-' :: Nat.toDigits 10 (k + 1) := by
      show ("-" ++ Nat.repr (k + 1)).toList = _
      rw [String.toList_append, Nat.toList_repr]
      rfl
    rw [Travels, htext]
    show readNumber true (Nat.toDigits 10 (k + 1)) = _
    rw [readNumber_toDigits (by omega), readWhole, if_neg (by simp), if_neg (by simp),
      if_neg (by omega)]
    rfl

/-- Not all floating-point numbers do: the one that is written as `5.0000000000000004e+32` is read
back as the one that is written as `5e+32`. -/
example : readSigned (numberText (real ⟨0x46B8A6E32246C99D⟩)).toList =
    .ok (real ⟨0x46B8A6E32246C99C⟩, []) := by
  decide +kernel

end Number

namespace Json

/-! ## Strings -/

/-- A control is read from its number. -/
theorem readCodePoint_control {k : Nat} (h : k < 0x20) (rest : List Char) :
    readCodePoint ('0' :: '0' :: (hexPair k ++ rest)) = .ok (Char.ofNat k, rest) := by
  have hall : ∀ k < 0x20, Text.hexValue? (Nat.digitChar (k / 16 % 16)) = some (k / 16) ∧
      Text.hexValue? (Nat.digitChar (k % 16)) = some (k % 16) := by
    decide
  obtain ⟨hhigh, hlow⟩ := hall k h
  have hzero : Text.hexValue? '0' = some 0 := by decide
  have hvalue : ((0 * 16 + 0) * 16 + k / 16) * 16 + k % 16 = k := by omega
  have hfour : readFourHex ('0' :: '0' :: (hexPair k ++ rest)) = .ok (k, rest) := by
    simp only [readFourHex, hexPair, List.cons_append, List.nil_append, hzero, hhigh, hlow, hvalue]
  have hunit : ¬ (0xDC00 ≤ k ∧ k ≤ 0xDFFF) := by omega
  have hsingle : k < 0xD800 ∨ 0xDBFF < k := by omega
  rw [readCodePoint, hfour]
  simp [bind, Except.bind, hunit, hsingle]

/-- Every character is read from what is written for it. -/
theorem readStringBody_escapeChar (fuel : Nat) (soFar : List Char) (c : Char) (rest : List Char) :
    readStringBody (fuel + 1) soFar (escapeChar c ++ rest) =
      readStringBody fuel (c :: soFar) rest := by
  -- A character that is escaped is read behind the backslash.
  have hescape : ∀ (d : Char) (after : List Char), readEscape after = .ok (d, rest) →
      readStringBody (fuel + 1) soFar ('\\' :: after) = readStringBody fuel (d :: soFar) rest := by
    intro d after h
    rw [readStringBody, if_neg (by decide), if_pos rfl, h]
    rfl
  have hcode : ∀ k, c.toNat = k → Char.ofNat k = c := fun k hk => hk ▸ Char.ofNat_toNat c
  rw [escapeChar]
  split
  · rename_i hc
    exact hc ▸ hescape '"' ('"' :: rest) rfl
  split
  · rename_i hc
    exact hc ▸ hescape '\\' ('\\' :: rest) rfl
  split
  · rename_i hc
    exact hcode 8 hc ▸ hescape (Char.ofNat 8) ('b' :: rest) rfl
  split
  · rename_i hc
    exact hc ▸ hescape '\t' ('t' :: rest) rfl
  split
  · rename_i hc
    exact hc ▸ hescape '\n' ('n' :: rest) rfl
  split
  · rename_i hc
    exact hcode 12 hc ▸ hescape (Char.ofNat 12) ('f' :: rest) rfl
  split
  · rename_i hc
    exact hc ▸ hescape '\r' ('r' :: rest) rfl
  split
  · rename_i hc
    have hread := readCodePoint_control hc rest
    rw [hcode _ rfl] at hread
    exact hescape c ('u' :: '0' :: '0' :: (hexPair c.toNat ++ rest)) hread
  · rename_i hquote hbackslash _ _ _ _ _ hcontrol
    rw [List.singleton_append, readStringBody, if_neg hquote, if_neg hbackslash, if_neg hcontrol]

theorem escapeChar_ne_nil (c : Char) : escapeChar c ≠ [] := by
  rw [escapeChar]
  repeat' split
  all_goals simp

theorem length_le_length_flatMap {α β : Type} {f : α → List β} (h : ∀ a, f a ≠ []) (as : List α) :
    as.length ≤ (as.flatMap f).length := by
  induction as with
  | nil => exact Nat.zero_le _
  | cons a as ih =>
    have ha := List.length_pos_iff.2 (h a)
    rw [List.flatMap_cons, List.length_append, List.length_cons]
    omega

theorem readString_stringText (s : String) (rest : List Char) :
    readString (s.toList.flatMap escapeChar ++ '"' :: rest) = .ok (s, rest) := by
  have hbody : ∀ (cs soFar : List Char) (fuel : Nat), cs.length < fuel →
      readStringBody fuel soFar (cs.flatMap escapeChar ++ '"' :: rest) =
        .ok (String.ofList (soFar.reverse ++ cs), rest) := by
    intro cs
    induction cs with
    | nil =>
      intro soFar fuel hfuel
      obtain ⟨fuel, rfl⟩ := Nat.exists_eq_add_one_of_ne_zero (Nat.ne_of_gt hfuel)
      rw [List.flatMap_nil, List.nil_append, readStringBody, if_pos rfl, List.append_nil]
    | cons c cs ih =>
      intro soFar fuel hfuel
      obtain ⟨fuel, rfl⟩ := Nat.exists_eq_add_one_of_ne_zero (Nat.ne_zero_of_lt hfuel)
      rw [List.flatMap_cons, List.append_assoc, readStringBody_escapeChar,
        ih _ _ (Nat.lt_of_succ_lt_succ hfuel)]
      simp
  have hlength : s.toList.length < (s.toList.flatMap escapeChar ++ '"' :: rest).length + 1 := by
    have hle := length_le_length_flatMap (fun c => (escapeChar_ne_nil c)) s.toList
    simp only [List.length_append]
    omega
  rw [readString, hbody _ _ _ hlength]
  simp

/-! ## Values -/

mutual

/-- All parts of the value are read from what is written for them. -/
def Travels : Json → Prop
  | .number n => n.Travels
  | .array items => TravelItems items
  | .object members => (members.map Prod.fst).Pairwise (· < ·) ∧ TravelMembers members
  | _ => True

def TravelItems : List Json → Prop
  | [] => True
  | item :: rest => item.Travels ∧ TravelItems rest

def TravelMembers : List (String × Json) → Prop
  | [] => True
  | (_, value) :: rest => value.Travels ∧ TravelMembers rest

end

/-- What is written behind an item. -/
def behindItem : List Json → List Char
  | [] => []
  | rest => ',' :: (itemsText rest).toList

/-- What is written behind a member. -/
def behindMember : List (String × Json) → List Char
  | [] => []
  | rest => ',' :: (membersText rest).toList

theorem toList_itemsText_cons (item : Json) (rest : List Json) :
    (itemsText (item :: rest)).toList = (text item).toList ++ behindItem rest := by
  cases rest with
  | nil => simp [itemsText, behindItem]
  | cons next rest => simp [itemsText, behindItem]

theorem toList_membersText_cons (name : String) (value : Json) (rest : List (String × Json)) :
    (membersText ((name, value) :: rest)).toList =
      (stringText name).toList ++ ':' :: ((text value).toList ++ behindMember rest) := by
  cases rest with
  | nil => simp [membersText, behindMember]
  | cons next rest => simp [membersText, behindMember]

theorem toList_stringText (s : String) :
    (stringText s).toList = '"' :: (s.toList.flatMap escapeChar ++ ['"']) := by
  simp [stringText]

theorem toList_text_array (items : List Json) :
    (text (.array items)).toList = '[' :: ((itemsText items).toList ++ [']']) := by
  simp [text]

theorem toList_text_object (members : List (String × Json)) :
    (text (.object members)).toList = '\x7b' :: ((membersText members).toList ++ ['\x7d']) := by
  simp [text]

/-- What is behind an item or a member is no part of a number. -/
theorem stops_behindItem (items : List Json) (rest : List Char) :
    Stops (behindItem items ++ ']' :: rest) := by
  cases items <;> simp [Stops, behindItem]

theorem stops_behindMember (members : List (String × Json)) (rest : List Char) :
    Stops (behindMember members ++ '\x7d' :: rest) := by
  cases members <;> simp [Stops, behindMember]

theorem skipSpace_cons {c : Char} (h : isSpace c = false) (rest : List Char) :
    skipSpace (c :: rest) = c :: rest := by
  simp [skipSpace, h]

/-- How a number starts. -/
theorem exists_head_of_readSigned {cs rest : List Char} {n : Number}
    (h : readSigned cs = .ok (n, rest)) :
    ∃ c after, cs = c :: after ∧ (c = '-' ∧ readNumber true after = .ok (n, rest) ∨
      c.isDigit = true ∧ readNumber false (c :: after) = .ok (n, rest)) := by
  rw [readSigned.eq_def] at h
  split at h
  · exact ⟨_, _, rfl, .inl ⟨rfl, h⟩⟩
  · cases cs with
    | nil => cases h
    | cons c after =>
      refine ⟨c, after, rfl, .inr ⟨?_, h⟩⟩
      by_cases hzero : c = '0'
      · rw [hzero]
        rfl
      · rw [readNumber_of_ne_zero hzero] at h
        cases hdigit : c.isDigit with
        | true => rfl
        | false =>
          rw [hdigit] at h
          cases h

/-- How a value starts. -/
theorem exists_head {v : Json} (h : v.Travels) :
    ∃ c after, (text v).toList = c :: after ∧ isSpace c = false ∧ c ≠ ']' := by
  cases v with
  | null => exact ⟨'n', "ull".toList, rfl, rfl, by decide⟩
  | bool b =>
    cases b with
    | true => exact ⟨'t', "rue".toList, rfl, rfl, by decide⟩
    | false => exact ⟨'f', "alse".toList, rfl, rfl, by decide⟩
  | number n =>
    obtain ⟨c, after, htext, ⟨rfl, -⟩ | ⟨hdigit, -⟩⟩ := exists_head_of_readSigned h
    · exact ⟨'-', after, htext, rfl, by decide⟩
    · refine ⟨c, after, htext, Bool.eq_false_iff.2 fun hspace => ?_, ?_⟩
      · simp only [isSpace, Bool.or_eq_true, decide_eq_true_eq] at hspace
        rcases hspace with ((rfl | rfl) | rfl) | rfl <;> cases hdigit
      · rintro rfl
        cases hdigit
  | string s => exact ⟨'"', _, toList_stringText s, rfl, by decide⟩
  | array items => exact ⟨'[', _, toList_text_array items, rfl, by decide⟩
  | object members => exact ⟨'\x7b', _, toList_text_object members, rfl, by decide⟩

/-- A member behind all others. -/
theorem insertMember_of_forall_lt {name : String} {value : Json} {members : List (String × Json)}
    (h : ∀ member ∈ members, member.1 < name) :
    insertMember name value members = members ++ [(name, value)] := by
  induction members with
  | nil => rfl
  | cons member rest ih =>
    obtain ⟨hfirst, hrest⟩ := List.forall_mem_cons.1 h
    obtain ⟨k, v⟩ := member
    have hnot : ¬ name < k := String.lt_asymm hfirst
    have hne : name ≠ k := fun heq => String.lt_irrefl k (heq ▸ hfirst)
    rw [insertMember, if_neg hnot, if_neg hne, ih hrest, List.cons_append]

/-! ### How they are read -/

section Heads

variable {fuel depth : Nat} {after rest : List Char}

theorem readValue_number {c : Char} {n : Number} (hrest : Stops rest)
    (h : readSigned (c :: after) = .ok (n, [])) :
    readValue (fuel + 1) depth (c :: after ++ rest) = .ok (.number n, rest) := by
  obtain ⟨c', after', heq, hread⟩ := exists_head_of_readSigned h
  obtain ⟨rfl, rfl⟩ := List.cons.inj heq
  rcases hread with ⟨rfl, hread⟩ | ⟨hdigit, hread⟩
  · have hmore := readNumber_append hrest hread
    rw [List.cons_append, readValue, skipSpace_cons rfl]
    simp [hmore, bind, Except.bind]
  · have hmore := readNumber_append hrest hread
    have hne : ∀ d, d.isDigit = false → c ≠ d := by
      rintro d hd rfl
      exact absurd (hd.symm.trans hdigit) (by decide)
    have hspace : isSpace c = false := by
      simp [isSpace, hne ' ' rfl, hne '\n' rfl, hne '\t' rfl, hne '\r' rfl]
    rw [List.cons_append] at hmore ⊢
    rw [readValue, skipSpace_cons hspace]
    simp [hne 'n' rfl, hne 't' rfl, hne 'f' rfl, hne '-' rfl, hdigit, hmore, bind, Except.bind]

theorem readValue_null :
    readValue (fuel + 1) depth ((text .null).toList ++ rest) = .ok (.null, rest) := by
  have htext : (text .null).toList = 'n' :: "ull".toList := rfl
  rw [htext, List.cons_append, readValue, skipSpace_cons rfl]
  rfl

theorem readValue_bool (b : Bool) :
    readValue (fuel + 1) depth ((text (.bool b)).toList ++ rest) = .ok (.bool b, rest) := by
  cases b with
  | true =>
    have htext : (text (.bool true)).toList = 't' :: "rue".toList := rfl
    rw [htext, List.cons_append, readValue, skipSpace_cons rfl]
    rfl
  | false =>
    have htext : (text (.bool false)).toList = 'f' :: "alse".toList := rfl
    rw [htext, List.cons_append, readValue, skipSpace_cons rfl]
    rfl

theorem readValue_string (s : String) :
    readValue (fuel + 1) depth ((stringText s).toList ++ rest) = .ok (.string s, rest) := by
  rw [toList_stringText, List.cons_append, List.append_assoc, readValue, skipSpace_cons rfl]
  simp [readString_stringText, bind, Except.bind]

theorem readValue_array {items : List Json} (hdepth : 1 < depth)
    (h : readItems fuel (depth - 1) true after = .ok (items, rest)) :
    readValue (fuel + 1) depth ('[' :: after) = .ok (.array items, rest) := by
  rw [readValue, skipSpace_cons rfl]
  simp [Nat.not_le.2 hdepth, h, bind, Except.bind]

theorem readValue_object {members : List (String × Json)} (hdepth : 1 < depth)
    (h : readMembers fuel (depth - 1) true [] after = .ok (members, rest)) :
    readValue (fuel + 1) depth ('\x7b' :: after) = .ok (.object members, rest) := by
  rw [readValue, skipSpace_cons rfl]
  simp [Nat.not_le.2 hdepth, h, bind, Except.bind]

theorem readItems_end (first : Bool) :
    readItems (fuel + 1) depth first (']' :: rest) = .ok ([], rest) := by
  rw [readItems, skipSpace_cons rfl]
  rfl

/-- The first item. -/
theorem readItems_first {c : Char} {item : Json} {items : List Json} {more : List Char}
    (hspace : isSpace c = false) (hend : c ≠ ']')
    (h : readValue fuel depth (c :: after) = .ok (item, more))
    (h' : readItems fuel depth false more = .ok (items, rest)) :
    readItems (fuel + 1) depth true (c :: after) = .ok (item :: items, rest) := by
  rw [readItems, skipSpace_cons hspace]
  simp [hend, h, h', bind, Except.bind]

/-- One more item. -/
theorem readItems_next {c : Char} {item : Json} {items : List Json} {more : List Char}
    (hspace : isSpace c = false) (hend : c ≠ ']')
    (h : readValue fuel depth (c :: after) = .ok (item, more))
    (h' : readItems fuel depth false more = .ok (items, rest)) :
    readItems (fuel + 1) depth false (',' :: c :: after) = .ok (item :: items, rest) := by
  rw [readItems, skipSpace_cons rfl]
  simp [skipSpace_cons hspace, hend, h, h', bind, Except.bind]

theorem readMembers_end (first : Bool) (members : List (String × Json)) :
    readMembers (fuel + 1) depth first members ('\x7d' :: rest) = .ok (members, rest) := by
  rw [readMembers, skipSpace_cons rfl]
  rfl

/-- A member behind the quote that its name starts with. -/
theorem readMember_value {name : String} {value : Json} {members : List (String × Json)}
    {more : List Char} (soFar : List (String × Json))
    (h : readValue fuel depth after = .ok (value, more))
    (h' : readMembers fuel depth false (insertMember name value soFar) more = .ok (members, rest)) :
    readMember (fuel + 1) depth soFar
      (name.toList.flatMap escapeChar ++ '"' :: ':' :: after) = .ok (members, rest) := by
  rw [readMember, readString_stringText]
  simp [skipSpace_cons, isSpace, h, h', bind, Except.bind]

theorem readMembers_first {soFar members : List (String × Json)}
    (h : readMember fuel depth soFar after = .ok (members, rest)) :
    readMembers (fuel + 1) depth true soFar ('"' :: after) = .ok (members, rest) := by
  rw [readMembers, skipSpace_cons rfl]
  simp [h]

theorem readMembers_next {soFar members : List (String × Json)}
    (h : readMember fuel depth soFar after = .ok (members, rest)) :
    readMembers (fuel + 1) depth false soFar (',' :: '"' :: after) = .ok (members, rest) := by
  rw [readMembers, skipSpace_cons rfl]
  simp [skipSpace_cons, isSpace, h]

end Heads

mutual

theorem readValue_text : ∀ (v : Json), v.Travels → ∀ (fuel depth : Nat) (rest : List Char),
    v.depth < depth → 2 * (text v).toList.length ≤ fuel + 1 → Stops rest →
    readValue (fuel + 1) depth ((text v).toList ++ rest) = .ok (v, rest)
  | .null, _ => fun _ _ _ _ _ _ => readValue_null
  | .bool b, _ => fun _ _ _ _ _ _ => readValue_bool b
  | .number n, htravels => by
    intro fuel depth rest _ _ hrest
    obtain ⟨c, after, htext, -⟩ := exists_head_of_readSigned htravels
    have hread : readSigned (c :: after) = .ok (n, []) := htext ▸ htravels
    have htext' : (text (.number n)).toList = c :: after := htext
    rw [htext']
    exact readValue_number hrest hread
  | .string s, _ => fun _ _ _ _ _ _ => readValue_string s
  | .array [], _ => by
    intro fuel depth rest hdepth hfuel _
    have hmore : 1 < depth := hdepth
    obtain ⟨fuel, rfl⟩ : ∃ k, fuel = k + 1 := Nat.exists_eq_add_one_of_ne_zero (by
      rintro rfl
      exact absurd hfuel (by decide))
    have htext : (text (.array [])).toList = ['[', ']'] := rfl
    rw [htext]
    exact readValue_array hmore (readItems_end true)
  | .array (item :: items), htravels => by
    intro fuel depth rest hdepth hfuel _
    obtain ⟨hitem, hitems⟩ := htravels
    obtain ⟨c, after, htext, hspace, hend⟩ := exists_head hitem
    rw [Json.depth, depthOfItems] at hdepth
    have hlength := congrArg List.length (toList_itemsText_cons item items)
    rw [List.length_append] at hlength
    have hpos : 0 < (text item).toList.length := by simp [htext]
    rw [toList_text_array, List.length_cons, List.length_append, hlength] at hfuel
    obtain ⟨fuel, rfl⟩ : ∃ k, fuel = k + 2 := ⟨fuel - 2, by simp at hfuel; omega⟩
    have hread := readValue_text item hitem fuel (depth - 1)
      (behindItem items ++ ']' :: rest) (by omega) (by simp at hfuel; omega)
      (stops_behindItem items rest)
    have hrest := readItems_behind items hitems fuel (depth - 1) rest (by omega)
      (by simp at hfuel; omega)
    rw [htext, List.cons_append] at hread
    have hall := readItems_first hspace hend hread hrest
    have hchars : (text (.array (item :: items))).toList ++ rest =
        '[' :: c :: (after ++ (behindItem items ++ ']' :: rest)) := by
      rw [toList_text_array, toList_itemsText_cons, htext]
      simp
    rw [hchars]
    exact readValue_array (by omega) hall
  | .object [], _ => by
    intro fuel depth rest hdepth hfuel _
    have hmore : 1 < depth := hdepth
    obtain ⟨fuel, rfl⟩ : ∃ k, fuel = k + 1 := Nat.exists_eq_add_one_of_ne_zero (by
      rintro rfl
      exact absurd hfuel (by decide))
    have htext : (text (.object [])).toList = ['\x7b', '\x7d'] := rfl
    rw [htext]
    exact readValue_object hmore (readMembers_end true [])
  | .object ((name, value) :: members), htravels => by
    intro fuel depth rest hdepth hfuel _
    obtain ⟨hsorted, hvalue, hmembers⟩ := htravels
    rw [Json.depth, depthOfMembers] at hdepth
    have hlength := congrArg List.length (toList_membersText_cons name value members)
    rw [toList_stringText] at hlength
    simp only [List.length_append, List.length_cons, List.length_nil] at hlength
    rw [toList_text_object] at hfuel
    simp only [List.length_append, List.length_cons, List.length_nil, hlength] at hfuel
    obtain ⟨fuel, rfl⟩ : ∃ k, fuel = k + 3 := ⟨fuel - 3, by omega⟩
    have hread := readValue_text value hvalue fuel (depth - 1)
      (behindMember members ++ '\x7d' :: rest) (by omega) (by omega)
      (stops_behindMember members rest)
    have hrest := readMembers_behind members hmembers [(name, value)] fuel (depth - 1) rest
      hsorted (by omega) (by omega)
    have hall := readMembers_first (readMember_value [] hread hrest)
    have hchars : (text (.object ((name, value) :: members))).toList ++ rest =
        '\x7b' :: '"' :: (name.toList.flatMap escapeChar ++ '"' :: ':' ::
          ((text value).toList ++ (behindMember members ++ '\x7d' :: rest))) := by
      rw [toList_text_object, toList_membersText_cons, toList_stringText]
      simp
    rw [hchars]
    exact readValue_object (by omega) hall

theorem readItems_behind : ∀ (items : List Json), TravelItems items →
    ∀ (fuel depth : Nat) (rest : List Char), depthOfItems items < depth →
    2 * (behindItem items).length ≤ fuel →
    readItems (fuel + 1) depth false (behindItem items ++ ']' :: rest) = .ok (items, rest)
  | [], _ => fun _ _ _ _ _ => readItems_end false
  | item :: items, htravels => by
    intro fuel depth rest hdepth hfuel
    obtain ⟨hitem, hitems⟩ := htravels
    obtain ⟨c, after, htext, hspace, hend⟩ := exists_head hitem
    rw [depthOfItems] at hdepth
    have hchars : behindItem (item :: items) =
        ',' :: ((text item).toList ++ behindItem items) :=
      congrArg (',' :: ·) (toList_itemsText_cons item items)
    rw [hchars, List.length_cons, List.length_append] at hfuel
    obtain ⟨fuel, rfl⟩ : ∃ k, fuel = k + 1 := ⟨fuel - 1, by omega⟩
    have hread := readValue_text item hitem fuel depth (behindItem items ++ ']' :: rest)
      (by omega) (by omega) (stops_behindItem items rest)
    have hrest := readItems_behind items hitems fuel depth rest (by omega) (by omega)
    rw [htext, List.cons_append] at hread
    have hall := readItems_next hspace hend hread hrest
    rw [hchars, htext]
    simpa using hall

theorem readMembers_behind : ∀ (members : List (String × Json)), TravelMembers members →
    ∀ (soFar : List (String × Json)) (fuel depth : Nat) (rest : List Char),
    ((soFar ++ members).map Prod.fst).Pairwise (· < ·) → depthOfMembers members < depth →
    2 * (behindMember members).length ≤ fuel →
    readMembers (fuel + 1) depth false soFar (behindMember members ++ '\x7d' :: rest) =
      .ok (soFar ++ members, rest)
  | [], _ => by
    intro soFar fuel depth rest _ _ _
    rw [List.append_nil]
    exact readMembers_end false soFar
  | (name, value) :: members, htravels => by
    intro soFar fuel depth rest hsorted hdepth hfuel
    obtain ⟨hvalue, hmembers⟩ := htravels
    rw [depthOfMembers] at hdepth
    have hchars : behindMember ((name, value) :: members) =
        ',' :: '"' :: (name.toList.flatMap escapeChar ++ '"' :: ':' ::
          ((text value).toList ++ behindMember members)) := by
      show ',' :: (membersText ((name, value) :: members)).toList = _
      rw [toList_membersText_cons, toList_stringText]
      simp
    rw [hchars] at hfuel
    simp only [List.length_append, List.length_cons] at hfuel
    obtain ⟨fuel, rfl⟩ : ∃ k, fuel = k + 2 := ⟨fuel - 2, by omega⟩
    have hread := readValue_text value hvalue fuel depth
      (behindMember members ++ '\x7d' :: rest) (by omega) (by omega)
      (stops_behindMember members rest)
    have hput : insertMember name value soFar = soFar ++ [(name, value)] := by
      refine insertMember_of_forall_lt fun member hmember => ?_
      rw [List.map_append, List.pairwise_append] at hsorted
      exact hsorted.2.2 _ (List.mem_map_of_mem hmember) name List.mem_cons_self
    rw [List.append_cons] at hsorted
    have hrest := readMembers_behind members hmembers (soFar ++ [(name, value)]) fuel depth rest
      hsorted (by omega) (by omega)
    rw [← hput] at hrest
    have hall := readMembers_next (readMember_value _ hread hrest)
    rw [hput] at hall
    rw [hchars]
    simpa using hall

end

/-- A value that can travel, and is not nested too deep, is read back. -/
theorem read_text {v : Json} (h : v.Travels) (hdepth : v.depth < depthLimit) :
    read (text v) = .ok v := by
  have hread := readValue_text v h (4 * (text v).toList.length + 3) depthLimit [] hdepth (by omega)
    nofun
  rw [List.append_nil] at hread
  rw [read]
  simp [hread, skipSpace, bind, Except.bind]

end Json

end DocStore
