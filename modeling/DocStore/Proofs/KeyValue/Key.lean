import DocStore.KeyValue.Key
import DocStore.Proofs.Sql.Naming
import Mathlib.Data.List.Infix
import Mathlib.Data.List.TakeWhile

/-!
# Normal forms of keys and their starts

A text that starts with another keeps to it in normal form
(`normalKey_isPrefix`): what is cut off at the front is the same for both, and
what is cut off at the back of the shorter one can only be more.

Cutting the blanks off both ends leaves ends that are not blank
(`head?_trim`, `getLast?_trim`), and it is the same before and after a change
that leaves blanks blank and all others not blank (`trim_map`).

A normal form has no blank at its ends, no capital, no hyphen and no point
(`isNormal_normalKey`), and is its own normal form (`normalKey_normalKey`).
`normalKey_eq_iff` says which keys have one normal form.
-/

namespace DocStore

namespace Text

theorem trimBack_isPrefix (text : List Char) : trimBack text <+: text := by
  rw [trimBack, ← List.reverse_suffix, List.reverse_reverse]
  exact List.dropWhile_suffix _

/-- The back is cut at the end of the whole: nothing of a front is lost but blanks at its end. -/
theorem trimBack_isPrefix_append (front behind : List Char) :
    trimBack front <+: trimBack (front ++ behind) := by
  rw [trimBack, trimBack, List.reverse_append, List.dropWhile_append]
  split
  · exact List.prefix_rfl
  · rw [List.reverse_append, List.reverse_reverse]
    exact (trimBack_isPrefix front).trans (List.prefix_append _ _)

theorem trim_isPrefix {start text : List Char} (h : start <+: text) : trim start <+: trim text := by
  obtain ⟨behind, rfl⟩ := h
  rw [trim, trim, trimFront, trimFront, List.dropWhile_append]
  split
  · -- Nothing is left of a start that is all blank.
    rename_i hblank
    rw [List.isEmpty_iff.1 hblank]
    exact List.nil_prefix
  · exact trimBack_isPrefix_append _ _

/-! ## What is left after cutting -/

theorem trimBack_eq (text : List Char) : trimBack text = (trimFront text.reverse).reverse := rfl

theorem head?_trimFront {text : List Char} {c : Char} (h : (trimFront text).head? = some c) :
    isBlank c = false := by
  obtain ⟨rest, hrest⟩ := List.head?_eq_some_iff.1 h
  exact head_trimFront hrest

theorem head?_trim {text : List Char} {c : Char} (h : (trim text).head? = some c) :
    isBlank c = false := by
  obtain ⟨rest, hrest⟩ := List.head?_eq_some_iff.1 h
  obtain ⟨behind, hbehind⟩ := trimBack_isPrefix (trimFront text)
  refine head?_trimFront (show (trimFront text).head? = some c from ?_)
  rw [← hbehind, show trimBack (trimFront text) = c :: rest from hrest]
  rfl

theorem getLast?_trim {text : List Char} {c : Char} (h : (trim text).getLast? = some c) :
    isBlank c = false := by
  rw [trim, trimBack_eq, List.getLast?_reverse] at h
  exact head?_trimFront h

theorem trimFront_eq_self {text : List Char} (h : ∀ c, text.head? = some c → isBlank c = false) :
    trimFront text = text := by
  cases text with
  | nil => rfl
  | cons c rest => exact List.dropWhile_cons_of_neg (by simp [h c rfl])

/-- Nothing is cut off where both ends are not blank. -/
theorem trim_eq_self {text : List Char} (hhead : ∀ c, text.head? = some c → isBlank c = false)
    (hlast : ∀ c, text.getLast? = some c → isBlank c = false) : trim text = text := by
  rw [trim, trimFront_eq_self hhead, trimBack_eq, trimFront_eq_self, List.reverse_reverse]
  simpa using hlast

/-- Cutting does not see a change that keeps the blanks apart from the others. -/
theorem trim_map {f : Char → Char} (h : ∀ c, isBlank (f c) = isBlank c) (text : List Char) :
    trim (text.map f) = (trim text).map f := by
  have hfront : ∀ text : List Char, trimFront (text.map f) = (trimFront text).map f := by
    intro text
    rw [trimFront, trimFront, List.dropWhile_map]
    exact congrArg (fun p => (text.dropWhile p).map f) (funext h)
  rw [trim, hfront, trimBack_eq, ← List.map_reverse, hfront, ← List.map_reverse]
  rfl

/-- Blanks around a text make no difference. -/
theorem trim_of_blanks {front back : List Char} (hfront : ∀ c ∈ front, isBlank c = true)
    (hback : ∀ c ∈ back, isBlank c = true) (text : List Char) :
    trim (front ++ text ++ back) = trim text := by
  have hstart : trimFront (front ++ text ++ back) = trimFront (text ++ back) := by
    rw [trimFront, List.append_assoc, List.dropWhile_append_of_pos hfront]
    rfl
  have hend : ∀ text : List Char, trimBack (text ++ back) = trimBack text := by
    intro text
    rw [trimBack, List.reverse_append, List.dropWhile_append_of_pos (by simpa using hback)]
    rfl
  rw [trim, hstart, trimFront, List.dropWhile_append]
  split
  · rename_i hblank
    have hnil : trimFront text = [] := List.isEmpty_iff.1 hblank
    have hgone : back.dropWhile isBlank = [] := List.dropWhile_eq_nil_iff.2 hback
    rw [hgone, trim, hnil]
  · exact hend _

/-- Around what is left stood blanks. -/
theorem exists_trim (text : List Char) : ∃ front back, text = front ++ trim text ++ back ∧
    (∀ c ∈ front, isBlank c = true) ∧ ∀ c ∈ back, isBlank c = true := by
  refine ⟨text.takeWhile isBlank, ((trimFront text).reverse.takeWhile isBlank).reverse, ?_,
    fun c hc => List.mem_takeWhile_imp hc,
    fun c hc => List.mem_takeWhile_imp (List.mem_reverse.1 hc)⟩
  have hback : trim text ++ ((trimFront text).reverse.takeWhile isBlank).reverse =
      trimFront text := by
    rw [trim, trimBack, ← List.reverse_append, List.takeWhile_append_dropWhile,
      List.reverse_reverse]
  rw [List.append_assoc, hback, trimFront, List.takeWhile_append_dropWhile]

end Text

namespace KeyValue

open Sql (SameLetter lower_eq_iff)
open Text (isBlank lower)

theorem toList_normalKey (key : String) :
    (normalKey key).toList = (Text.trim key.toList).map normalChar := String.toList_ofList

/-- The normal form of a start is a start of the normal form. -/
theorem normalKey_isPrefix {start key : String} (h : start.toList <+: key.toList) :
    (normalKey start).toList <+: (normalKey key).toList := by
  rw [toList_normalKey, toList_normalKey]
  exact (Text.trim_isPrefix h).map normalChar

/-! ## Characters -/

/-- The characters that become an underscore. -/
def separators : List Char := ['-', '.', '_']

/-- The same character but for the case of ASCII letters, and for which separator it is. -/
def SameChar (c d : Char) : Prop := SameLetter c d ∨ c ∈ separators ∧ d ∈ separators

/-- A character that a key in normal form can have. -/
def IsNormalChar (c : Char) : Prop := ¬ ('A' ≤ c ∧ c ≤ 'Z') ∧ c ≠ '-' ∧ c ≠ '.'

instance : DecidablePred IsNormalChar := fun c =>
  inferInstanceAs (Decidable (¬ ('A' ≤ c ∧ c ≤ 'Z') ∧ c ≠ '-' ∧ c ≠ '.'))

theorem normalChar_of_mem {c : Char} (h : c ∈ separators) : normalChar c = '_' := by
  simp only [separators, List.mem_cons, List.not_mem_nil, or_false] at h
  obtain rfl | rfl | rfl := h <;> decide

theorem normalChar_of_not_mem {c : Char} (h : c ∉ separators) : normalChar c = lower c := by
  simp only [separators, List.mem_cons, List.not_mem_nil, or_false, not_or] at h
  rw [normalChar, if_neg (by simp [h])]

/-- Beyond ASCII nothing changes. -/
theorem normalChar_of_large {c : Char} (h : 128 ≤ c.toNat) : normalChar c = c := by
  have hsmall : ∀ d ∈ separators, d.toNat < 128 := by simp [separators]
  rw [normalChar_of_not_mem fun hmem => absurd (hsmall c hmem) (by omega), Text.lower_of_large h]

theorem isNormalChar_normalChar (c : Char) : IsNormalChar (normalChar c) := by
  refine Text.forall_char (P := fun c => IsNormalChar (normalChar c)) (by decide +kernel)
    (fun c hlarge => ?_) c
  have hcapital : ¬ c ≤ 'Z' := fun h => by
    have hle : c.toNat ≤ 90 := h
    omega
  rw [normalChar_of_large hlarge]
  refine ⟨fun h => hcapital h.2, ?_, ?_⟩
  all_goals
    rintro rfl
    exact absurd hlarge (by decide)

theorem normalChar_of_isNormalChar {c : Char} (h : IsNormalChar c) : normalChar c = c := by
  revert h
  refine Text.forall_char (P := fun c => IsNormalChar c → normalChar c = c) (by decide +kernel)
    (fun c hlarge _ => normalChar_of_large hlarge) c

/-- Folding neither makes blanks nor takes them away. -/
theorem isBlank_normalChar (c : Char) : isBlank (normalChar c) = isBlank c :=
  Text.forall_char (P := fun c => isBlank (normalChar c) = isBlank c) (by decide +kernel)
    (fun c hlarge => by rw [normalChar_of_large hlarge]) c

theorem lower_of_mem {c : Char} (h : c ∈ separators) : lower c = c := by
  simp only [separators, List.mem_cons, List.not_mem_nil, or_false] at h
  obtain rfl | rfl | rfl := h <;> decide

theorem mem_of_lower_mem {c : Char} : lower c ∈ separators → c ∈ separators :=
  Text.forall_char (P := fun c => lower c ∈ separators → c ∈ separators) (by decide +kernel)
    (fun c hlarge h => by rwa [Text.lower_of_large hlarge] at h) c

theorem normalChar_eq_iff {c d : Char} : normalChar c = normalChar d ↔ SameChar c d := by
  -- A separator is no letter, so a character with its small letter is a separator.
  have hapart : ∀ {c d : Char}, c ∈ separators → lower c = lower d → d ∈ separators :=
    fun hc h => mem_of_lower_mem (h ▸ (lower_of_mem hc).symm ▸ hc)
  have hunder : '_' ∈ separators := by decide
  rw [SameChar, ← lower_eq_iff]
  by_cases hc : c ∈ separators <;> by_cases hd : d ∈ separators
  · simp [normalChar_of_mem, hc, hd]
  · rw [normalChar_of_mem hc, normalChar_of_not_mem hd]
    simp only [hd, and_false, or_false]
    exact iff_of_false (fun h => hd (mem_of_lower_mem (h ▸ hunder))) fun h => hd (hapart hc h)
  · rw [normalChar_of_not_mem hc, normalChar_of_mem hd]
    simp only [hc, false_and, or_false]
    exact iff_of_false (fun h => hc (mem_of_lower_mem (h ▸ hunder)))
      fun h => hc (hapart hd h.symm)
  · simp [normalChar_of_not_mem, hc, hd]

/-! ## Keys -/

/-- Keys that differ only in the blanks around them, in the case of ASCII letters and in which
separators they have. -/
def SameKey (key other : String) : Prop :=
  ∃ front core back front' core' back' : List Char,
    key.toList = front ++ core ++ back ∧ other.toList = front' ++ core' ++ back' ∧
    (∀ c ∈ front ++ back ++ (front' ++ back'), isBlank c = true) ∧
    List.Forall₂ SameChar core core'

/-- A key in normal form. -/
structure IsNormal (key : String) : Prop where
  head : ∀ c, key.toList.head? = some c → isBlank c = false
  last : ∀ c, key.toList.getLast? = some c → isBlank c = false
  chars : ∀ c ∈ key.toList, IsNormalChar c

theorem isNormal_normalKey (key : String) : IsNormal (normalKey key) := by
  constructor
  · intro c hc
    rw [toList_normalKey, ← Text.trim_map isBlank_normalChar] at hc
    exact Text.head?_trim hc
  · intro c hc
    rw [toList_normalKey, ← Text.trim_map isBlank_normalChar] at hc
    exact Text.getLast?_trim hc
  · intro c hc
    rw [toList_normalKey] at hc
    obtain ⟨d, -, rfl⟩ := List.mem_map.1 hc
    exact isNormalChar_normalChar d

theorem IsNormal.normalKey_eq {key : String} (h : IsNormal key) : normalKey key = key := by
  apply String.toList_injective
  rw [toList_normalKey, Text.trim_eq_self h.head h.last]
  exact (List.map_congr_left fun c hc => normalChar_of_isNormalChar (h.chars c hc)).trans
    (List.map_id _)

theorem normalKey_normalKey (key : String) : normalKey (normalKey key) = normalKey key :=
  (isNormal_normalKey key).normalKey_eq

/-- Two keys have one normal form if they differ only in what it does away with. -/
theorem normalKey_eq_iff {key other : String} :
    normalKey key = normalKey other ↔ SameKey key other := by
  have hsame : ∀ {core core' : List Char},
      core.map normalChar = core'.map normalChar ↔ List.Forall₂ SameChar core core' := by
    intro core core'
    rw [← List.forall₂_eq_eq_eq, List.forall₂_map_left_iff, List.forall₂_map_right_iff]
    simp only [normalChar_eq_iff]
  rw [← String.toList_inj, toList_normalKey, toList_normalKey]
  constructor
  · intro h
    obtain ⟨front, back, hkey, hfront, hback⟩ := Text.exists_trim key.toList
    obtain ⟨front', back', hother, hfront', hback'⟩ := Text.exists_trim other.toList
    refine ⟨front, _, back, front', _, back', hkey, hother, ?_, hsame.1 h⟩
    simp only [List.mem_append]
    rintro c ((hc | hc) | hc | hc)
    exacts [hfront c hc, hback c hc, hfront' c hc, hback' c hc]
  · rintro ⟨front, core, back, front', core', back', hkey, hother, hblank, h⟩
    simp only [List.mem_append] at hblank
    rw [hkey, hother, Text.trim_of_blanks (fun c hc => hblank c (.inl (.inl hc)))
        (fun c hc => hblank c (.inl (.inr hc))),
      Text.trim_of_blanks (fun c hc => hblank c (.inr (.inl hc)))
        (fun c hc => hblank c (.inr (.inr hc))),
      ← Text.trim_map isBlank_normalChar, ← Text.trim_map isBlank_normalChar, hsame.2 h]

end KeyValue

end DocStore
