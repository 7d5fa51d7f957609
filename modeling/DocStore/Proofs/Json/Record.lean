import DocStore.Json.Decode
import Mathlib.Data.List.Forall2

/-!
# What decoders give

`Decoder.Yields d P` says that every value read by `d` has the property `P`, and
`Fields.Yields a P` the same of the records that fields are put together to, be
they read from an object or from an array.  A field yields what its decoder and
its defaults do (`yields_field`), the properties of several fields are put
together as the fields are (`yields_map`, `yields_seq`), and a record is read
out of its fields (`yields_record`).

The other way round, a list or a value that may be missing is read back when its
items are (`Decoder.list_map`, `Decoder.nullable_ofOption`), and a record when its
fields are: `Fields.Reads a members x` says that out of an object's members the
fields give the record `x`.  A field reads the one member of its name
(`reads_field`), and fields of different names do not keep one another from
reading theirs (`reads_seq`).
-/

namespace DocStore

/-! ## Lists -/

/-- A list is read when each of its items is. -/
theorem mapM_eq_ok_iff {ε α β : Type} {f : α → Except ε β} {xs : List α} {ys : List β} :
    xs.mapM f = .ok ys ↔ List.Forall₂ (fun x y => f x = .ok y) xs ys := by
  induction xs generalizing ys with
  | nil =>
    rw [List.forall₂_nil_left_iff]
    exact ⟨fun h => (Except.ok.inj h).symm, fun h => h ▸ rfl⟩
  | cons x xs ih =>
    rw [List.mapM_cons, List.forall₂_cons_left_iff]
    cases hx : f x with
    | error e => simp [bind, Except.bind]
    | ok y =>
      cases hxs : xs.mapM f with
      | error e => simp [bind, Except.bind, ← ih, hxs]
      | ok ys' => simp [bind, Except.bind, pure, Except.pure, ← ih, hxs, eq_comm]

theorem exists_mem_of_forall₂ {α β : Type} {R : α → β → Prop} {xs : List α} {ys : List β}
    (h : List.Forall₂ R xs ys) {y : β} (hy : y ∈ ys) : ∃ x ∈ xs, R x y := by
  induction h with
  | nil => exact absurd hy List.not_mem_nil
  | @cons x y' _ _ hfirst _ ih =>
    rcases List.mem_cons.1 hy with rfl | hy
    · exact ⟨x, List.mem_cons_self, hfirst⟩
    · obtain ⟨x', hx', hrel⟩ := ih hy
      exact ⟨x', List.mem_cons_of_mem x hx', hrel⟩

namespace Decoder

variable {α β : Type} {d : Decoder α} {P : α → Prop}

theorem exists_of_bind_eq_ok {x : Except Mismatch α} {f : α → Except Mismatch β} {b : β}
    (h : x.bind f = .ok b) : ∃ a, x = .ok a ∧ f a = .ok b := by
  cases x with
  | error e => exact nomatch h
  | ok a => exact ⟨a, rfl, h⟩

theorem exists_of_map_eq_ok {x : Except Mismatch α} {f : α → β} {b : β}
    (h : x.map f = .ok b) : ∃ a, x = .ok a ∧ f a = b := by
  cases x with
  | error e => exact nomatch h
  | ok a => exact ⟨a, rfl, Except.ok.inj h⟩

/-! ## Reading back -/

theorem nullable_ofOption {f : α → Json} {o : Option α} (hnull : ∀ a, f a ≠ .null)
    (h : ∀ a ∈ o, d (f a) = .ok a) : nullable d (.ofOption (o.map f)) = .ok o := by
  cases o with
  | none => rfl
  | some a =>
      have hread : nullable d (f a) = (d (f a)).map some := by
        cases hf : f a with
        | null => exact absurd hf (hnull a)
        | _ => rfl
      rw [Option.map_some, Json.ofOption, Option.getD_some, hread, h a rfl]
      rfl

theorem unsigned_ofNat {bits n : Nat} (h : n < Decimal.twoTo bits) :
    unsigned bits (.ofNat n) = .ok n := by
  have hn : (n : Int) < Decimal.twoTo bits := by exact_mod_cast h
  simp [unsigned, integer, Json.ofNat, hn, Except.map]

/-- Items that are read one by one are read together. -/
theorem list_map {f : β → Json} {g : β → α} {bs : List β} (h : ∀ b ∈ bs, d (f b) = .ok (g b)) :
    list d (.array (bs.map f)) = .ok (bs.map g) := by
  rw [list, mapM_eq_ok_iff, List.forall₂_map_left_iff, List.forall₂_map_right_iff,
    List.forall₂_same]
  exact h

/-! ## What is read -/

/-- Every value that is read has the property. -/
def Yields (d : Decoder α) (P : α → Prop) : Prop := ∀ v a, d v = .ok a → P a

theorem yields_list (hd : d.Yields P) : (list d).Yields fun as => ∀ a ∈ as, P a := by
  intro v as h
  cases v with
  | array items =>
      intro a ha
      obtain ⟨item, -, hread⟩ := exists_mem_of_forall₂ (mapM_eq_ok_iff.1 h) ha
      exact hd item a hread
  | _ => exact nomatch h

theorem yields_nullable (hd : d.Yields P) : (nullable d).Yields fun o => ∀ a ∈ o, P a := by
  intro v o h
  have present (h : (d v).map some = .ok o) : ∀ a ∈ o, P a := by
    obtain ⟨a, hv, rfl⟩ := exists_of_map_eq_ok h
    rintro b ⟨⟩
    exact hd v a hv
  cases v with
  | null =>
      obtain rfl : none = o := Except.ok.inj h
      simp
  | _ => exact present h

theorem yields_unsigned (bits : Nat) : (unsigned bits).Yields (· < Decimal.twoTo bits) := by
  intro v n h
  obtain ⟨k, hk, rfl⟩ := exists_of_map_eq_ok h
  cases v with
  | number m =>
      cases m with
      | integer m =>
          by_cases hfits : 0 ≤ m ∧ m < Decimal.twoTo bits
          · obtain rfl : m = k := by simpa [integer, hfits] using hk
            show m.toNat < Decimal.twoTo bits
            omega
          · simp [integer, hfits] at hk
      | real x => exact nomatch hk
  | _ => exact nomatch hk

end Decoder

namespace Fields

open Decoder (exists_of_bind_eq_ok exists_of_map_eq_ok)

variable {α β : Type} {P : α → Prop} {Q : β → Prop}

/-- Every record that the fields give has the property.  What was read so far satisfies an
invariant of its own, since not every field has come by yet. -/
def Yields (a : Fields α) (P : α → Prop) : Prop :=
  (∃ Sound : a.Slots → Prop, Sound a.empty ∧
    (∀ s key v s', Sound s → a.put s key v = some (.ok s') → Sound s') ∧
    ∀ s x, Sound s → a.finish s = .ok x → P x) ∧
  ∀ short index items x rest, a.ofItems short index items = .ok (x, rest) → P x

theorem yields_field {name : String} {d : Decoder α} {fromObject fromArray : Option α}
    (hd : d.Yields P) (hobject : ∀ a ∈ fromObject, P a) (harray : ∀ a ∈ fromArray, P a) :
    (field name d fromObject fromArray).Yields P := by
  refine ⟨⟨fun s : Option α => ∀ a ∈ s, P a, nofun, ?put, ?finish⟩, ?items⟩
  case put =>
    intro s key v s' _ h
    by_cases hkey : key = name
    · simp only [field, if_pos hkey, Option.some_inj] at h
      obtain ⟨a, ha, rfl⟩ := exists_of_map_eq_ok h
      rintro b ⟨⟩
      exact hd v a ha
    · simp [field, hkey] at h
  case finish =>
    intro s x hs h
    change Option α at s
    cases s with
    | none =>
        cases fromObject with
        | none => exact nomatch h
        | some b =>
            obtain rfl : b = x := Except.ok.inj h
            exact hobject b rfl
    | some a =>
        obtain rfl : a = x := Except.ok.inj h
        exact hs a rfl
  case items =>
    rintro short index (_ | ⟨item, items⟩) x rest h
    · cases fromArray with
      | none => exact nomatch h
      | some b =>
          obtain ⟨rfl, -⟩ := Prod.mk.inj (Except.ok.inj h)
          exact harray b rfl
    · obtain ⟨a, ha, hax⟩ := exists_of_map_eq_ok h
      obtain ⟨rfl, -⟩ := Prod.mk.inj hax
      exact hd item a ha

theorem yields_required {name : String} {d : Decoder α} (hd : d.Yields P) :
    (required name d).Yields P :=
  yields_field hd (by simp) (by simp)

theorem yields_defaulted {name : String} {d : Decoder α} {default : α} (hd : d.Yields P)
    (hdefault : P default) : (defaulted name d default).Yields P :=
  yields_field hd (by simpa using hdefault) (by simpa using hdefault)

theorem yields_map {a : Fields α} {f : α → β} (ha : a.Yields P) (hf : ∀ x, P x → Q (f x)) :
    (a.map f).Yields Q := by
  obtain ⟨⟨Sound, hempty, hput, hfinish⟩, hitems⟩ := ha
  refine ⟨⟨Sound, hempty, hput, ?finish⟩, ?items⟩
  case finish =>
    intro s y hs h
    obtain ⟨x, hx, rfl⟩ := exists_of_map_eq_ok h
    exact hf x (hfinish s x hs hx)
  case items =>
    intro short index items y rest h
    obtain ⟨⟨x, rest'⟩, hx, hxy⟩ := exists_of_map_eq_ok h
    obtain ⟨rfl, -⟩ := Prod.mk.inj hxy
    exact hf x (hitems short index items x rest' hx)

theorem yields_seq {f : Fields (α → β)} {a : Fields α} (ha : a.Yields P)
    (hf : f.Yields fun g => ∀ x, P x → Q (g x)) : (f.seq a).Yields Q := by
  obtain ⟨⟨SoundF, hemptyF, hputF, hfinishF⟩, hitemsF⟩ := hf
  obtain ⟨⟨SoundA, hemptyA, hputA, hfinishA⟩, hitemsA⟩ := ha
  refine ⟨⟨fun s => SoundF s.1 ∧ SoundA s.2, ⟨hemptyF, hemptyA⟩, ?put, ?finish⟩, ?items⟩
  case put =>
    rintro ⟨sf, sa⟩ key v s' ⟨hsf, hsa⟩ h
    simp only [seq] at h
    cases hpf : f.put sf key v with
    | some r =>
        rw [hpf] at h
        obtain ⟨t, rfl, rfl⟩ := exists_of_map_eq_ok (Option.some.inj h)
        exact ⟨hputF sf key v t hsf hpf, hsa⟩
    | none =>
        rw [hpf] at h
        obtain ⟨r, hpa, hr⟩ := Option.map_eq_some_iff.1 h
        obtain ⟨t, rfl, rfl⟩ := exists_of_map_eq_ok hr
        exact ⟨hsf, hputA sa key v t hsa hpa⟩
  case finish =>
    rintro ⟨sf, sa⟩ y ⟨hsf, hsa⟩ h
    obtain ⟨g, hg, h⟩ := exists_of_bind_eq_ok h
    obtain ⟨x, hx, h⟩ := exists_of_bind_eq_ok h
    obtain rfl : g x = y := Except.ok.inj h
    exact hfinishF sf g hsf hg x (hfinishA sa x hsa hx)
  case items =>
    intro short index items y rest h
    obtain ⟨⟨g, index', items'⟩, hg, h⟩ := exists_of_bind_eq_ok h
    obtain ⟨⟨x, rest'⟩, hx, h⟩ := exists_of_bind_eq_ok h
    obtain ⟨rfl, -⟩ := Prod.mk.inj (Except.ok.inj h)
    exact hitemsF short index items g _ hg x (hitemsA short index' items' x rest' hx)

/-- Reading the members of an object keeps the invariant of what was read. -/
theorem sound_putAll {a : Fields α} {Sound : a.Slots → Prop}
    (hput : ∀ s key v s', Sound s → a.put s key v = some (.ok s') → Sound s')
    (refuseOthers : Bool) {members : List (String × Json)} {s s' : a.Slots} (hs : Sound s)
    (h : a.putAll refuseOthers members s = .ok s') : Sound s' := by
  induction members generalizing s with
  | nil =>
      obtain rfl : s = s' := Except.ok.inj h
      exact hs
  | cons member rest ih =>
      obtain ⟨key, v⟩ := member
      simp only [putAll] at h
      cases hkey : a.put s key v with
      | none =>
          rw [hkey] at h
          cases refuseOthers with
          | true => exact nomatch h
          | false => exact ih hs h
      | some r =>
          rw [hkey] at h
          obtain ⟨t, rfl, h⟩ := exists_of_bind_eq_ok h
          exact ih (hput s key v t hs hkey) h

theorem yields_record {name : String} {a : Fields α} (ha : a.Yields P) :
    (record name a).Yields P := by
  obtain ⟨⟨Sound, hempty, hput, hfinish⟩, hitems⟩ := ha
  intro v x h
  cases v with
  | object members =>
      obtain ⟨s, hs, h⟩ := exists_of_bind_eq_ok h
      exact hfinish s x (sound_putAll hput false hempty hs) h
  | array items =>
      obtain ⟨⟨y, index, rest⟩, hr, h⟩ := exists_of_bind_eq_ok h
      by_cases hrest : rest = []
      · obtain rfl : y = x := by simpa [hrest] using h
        exact hitems _ 0 items y _ hr
      · simp [hrest] at h
  | _ => exact nomatch h

/-! ## Reading an object back -/

@[simp] theorem names_required {name : String} {d : Decoder α} :
    (required name d).names = [name] := rfl

@[simp] theorem names_defaulted {name : String} {d : Decoder α} {default : α} :
    (defaulted name d default).names = [name] := rfl

@[simp] theorem names_map {a : Fields α} {f : α → β} : (a.map f).names = a.names := rfl

@[simp] theorem names_seq {f : Fields (α → β)} {a : Fields α} :
    (f.seq a).names = f.names ++ a.names := rfl

/-- Members of other names are left alone, and out of these members the fields give `x`. -/
structure Reads (a : Fields α) (members : List (String × Json)) (x : α) : Prop where
  put_eq_none : ∀ s key v, key ∉ a.names → a.put s key v = none
  exists_putAll : ∃ s, a.putAll false members a.empty = .ok s ∧ a.finish s = .ok x

variable {members : List (String × Json)}

theorem putAll_of_put_eq_none {a : Fields α} {s : a.Slots} {key : String} {v : Json}
    (h : a.put s key v = none) :
    a.putAll false ((key, v) :: members) s = a.putAll false members s := by
  rw [putAll, h]
  rfl

theorem putAll_of_put_eq_some {a : Fields α} {s t : a.Slots} {key : String} {v : Json}
    (h : a.put s key v = some (.ok t)) :
    a.putAll false ((key, v) :: members) s = a.putAll false members t := by
  rw [putAll, h]
  rfl

section Field

variable {name : String} {d : Decoder α} {fromObject fromArray : Option α}

theorem put_field_of_ne {key : String} (h : key ≠ name)
    (s : (field name d fromObject fromArray).Slots) (v : Json) :
    (field name d fromObject fromArray).put s key v = none :=
  if_neg h

theorem putAll_field_of_filter_eq_nil (h : members.filter (·.1 = name) = [])
    (s : (field name d fromObject fromArray).Slots) :
    (field name d fromObject fromArray).putAll false members s = .ok s := by
  induction members with
  | nil => rfl
  | cons member rest ih =>
      obtain ⟨key, v⟩ := member
      have hkey : key ≠ name := by
        rintro rfl
        simp at h
      rw [putAll_of_put_eq_none (put_field_of_ne hkey s v)]
      exact ih (by simpa [hkey] using h)

/-- The one member of the field's name is what is read. -/
theorem putAll_field {v : Json} {x : α} (hone : members.filter (·.1 = name) = [(name, v)])
    (hread : d v = .ok x) (s : (field name d fromObject fromArray).Slots) :
    (field name d fromObject fromArray).putAll false members s = .ok (some x) := by
  induction members with
  | nil => exact nomatch hone
  | cons member rest ih =>
      obtain ⟨key, w⟩ := member
      by_cases hkey : key = name
      · obtain ⟨rfl, hrest⟩ : w = v ∧ rest.filter (·.1 = name) = [] := by
          simpa [hkey] using hone
        have hput : (field name d fromObject fromArray).put s key w = some (.ok (some x)) := by
          simp only [field, if_pos hkey, hread, Except.map]
        rw [putAll_of_put_eq_some hput]
        exact putAll_field_of_filter_eq_nil hrest _
      · rw [putAll_of_put_eq_none (put_field_of_ne hkey s w)]
        exact ih (by simpa [hkey] using hone)

theorem reads_field {v : Json} {x : α} (hone : members.filter (·.1 = name) = [(name, v)])
    (hread : d v = .ok x) : (field name d fromObject fromArray).Reads members x where
  put_eq_none s _ w hkey := put_field_of_ne (List.ne_of_not_mem_cons hkey) s w
  exists_putAll := ⟨some x, putAll_field hone hread _, rfl⟩

end Field

theorem putAll_map {a : Fields α} {f : α → β} {s t : a.Slots}
    (h : a.putAll false members s = .ok t) : (a.map f).putAll false members s = .ok t := by
  induction members generalizing s with
  | nil => exact h
  | cons member rest ih =>
      obtain ⟨key, v⟩ := member
      cases hput : a.put s key v with
      | some r =>
          rw [putAll, hput] at h
          obtain ⟨s', rfl, h⟩ := exists_of_bind_eq_ok h
          exact (putAll_of_put_eq_some (a := a.map f) hput).trans (ih h)
      | none =>
          rw [putAll_of_put_eq_none hput] at h
          exact (putAll_of_put_eq_none (a := a.map f) hput).trans (ih h)

theorem reads_map {a : Fields α} {f : α → β} {x : α} (ha : a.Reads members x) :
    (a.map f).Reads members (f x) := by
  obtain ⟨hnone, s, hput, hfinish⟩ := ha
  exact ⟨hnone, s, putAll_map hput, by simp only [map, hfinish, Except.map]⟩

/-- Fields that share no name read the members as if the others were not there. -/
theorem putAll_seq {f : Fields (α → β)} {a : Fields α}
    (hf : ∀ s key v, key ∉ f.names → f.put s key v = none)
    (ha : ∀ s key v, key ∉ a.names → a.put s key v = none)
    (hapart : ∀ key ∈ f.names, key ∉ a.names) {sf tf : f.Slots} {sa ta : a.Slots}
    (hsf : f.putAll false members sf = .ok tf) (hsa : a.putAll false members sa = .ok ta) :
    (f.seq a).putAll false members (sf, sa) = .ok (tf, ta) := by
  induction members generalizing sf sa with
  | nil =>
      obtain rfl : sf = tf := Except.ok.inj hsf
      obtain rfl : sa = ta := Except.ok.inj hsa
      rfl
  | cons member rest ih =>
      obtain ⟨key, v⟩ := member
      cases hpf : f.put sf key v with
      | some r =>
          have hmem : key ∈ f.names :=
            Decidable.byContradiction fun hkey => by simp [hf sf key v hkey] at hpf
          rw [putAll, hpf] at hsf
          obtain ⟨t, rfl, hsf⟩ := exists_of_bind_eq_ok hsf
          rw [putAll_of_put_eq_none (ha sa key v (hapart key hmem))] at hsa
          have hput : (f.seq a).put (sf, sa) key v = some (.ok (t, sa)) := by
            simp only [seq, hpf, Except.map]
          rw [putAll_of_put_eq_some hput, ih hsf hsa]
      | none =>
          rw [putAll_of_put_eq_none hpf] at hsf
          cases hpa : a.put sa key v with
          | some r =>
              rw [putAll, hpa] at hsa
              obtain ⟨t, rfl, hsa⟩ := exists_of_bind_eq_ok hsa
              have hput : (f.seq a).put (sf, sa) key v = some (.ok (sf, t)) := by
                simp only [seq, hpf, hpa, Option.map_some, Except.map]
              rw [putAll_of_put_eq_some hput, ih hsf hsa]
          | none =>
              rw [putAll_of_put_eq_none hpa] at hsa
              have hput : (f.seq a).put (sf, sa) key v = none := by
                simp only [seq, hpf, hpa, Option.map_none]
              rw [putAll_of_put_eq_none hput, ih hsf hsa]

theorem reads_seq {f : Fields (α → β)} {a : Fields α} {g : α → β} {x : α}
    (hf : f.Reads members g) (ha : a.Reads members x)
    (hapart : ∀ key ∈ f.names, key ∉ a.names) : (f.seq a).Reads members (g x) := by
  obtain ⟨hnonef, sf, hputf, hfinishf⟩ := hf
  obtain ⟨hnonea, sa, hputa, hfinisha⟩ := ha
  refine ⟨?_, (sf, sa), putAll_seq hnonef hnonea hapart hputf hputa, ?_⟩
  · intro s key v hkey
    rw [names_seq, List.mem_append, not_or] at hkey
    simp only [seq, hnonef s.1 key v hkey.1, hnonea s.2 key v hkey.2, Option.map_none]
  · simp only [seq, hfinishf, hfinisha]
    rfl

theorem record_of_reads {name : String} {a : Fields α} {x : α} (h : a.Reads members x) :
    record name a (.object members) = .ok x := by
  obtain ⟨-, s, hput, hfinish⟩ := h
  simp only [record, decode, hput]
  exact hfinish

end Fields

end DocStore
