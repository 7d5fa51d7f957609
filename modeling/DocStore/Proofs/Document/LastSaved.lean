import DocStore.Proofs.Document.Models
import DocStore.Proofs.Json.Content
import DocStore.Proofs.Table.Carrying

/-!
# What is read after it was saved

Documents are saved one after the other, alone, together and by updates, and nobody else writes
(`Saved`).  Then a key is read (`Reads`).

The database compares the text to save with the one that stands there by what they say
(`Backend.Compares`), and does not touch a text that says the same.  So what is read need not be
the value that was saved last.  It is the first of the last values that say the same as this one,
or stood there before, if all that was saved says the same (`Stands`): `get_says_last_saved`.  The
value that was saved last is read where no other value says the same, as without floating-point
numbers: `reads_last_of_whole`.

What this file does not do: it leaves open what floating-point numbers are read as, of which the
reader of the store does not get all back as they were written.
-/

namespace DocStore

open Sql

/-! ## Comparing texts -/

namespace Sql.Backend

variable (b : Backend)

/-- The texts can be compared and say the same. -/
def SaySame (text text' : String) : Prop :=
  ∃ content, b.content? text = some content ∧ b.content? text' = some content

/-- The texts can be compared and say different things. -/
def SayOther (text text' : String) : Prop :=
  ∃ content content', b.content? text = some content ∧ b.content? text' = some content' ∧
    content ≠ content'

/-- Values that can be compared are compared by what they say. -/
def Compares (values : List Json) : Prop :=
  ∀ v ∈ values, ∀ w ∈ values,
    (b.SaySame v.text w.text → v.content = w.content) ∧
      (b.SayOther v.text w.text → v.content ≠ w.content)

/-- What stands under a key behind some saves. -/
inductive Stands (before : Option Stored) (values : List Json) : String → Prop where
  /-- The first of the last values that say the same. -/
  | saved {front behind : List Json} {w : Json} (hvalues : values = front ++ w :: behind)
      (hbehind : ∀ value ∈ behind, b.SaySame value.text w.text)
      (hfront : ∀ value ∈ front.getLast?, b.SayOther value.text w.text) :
      Stands before values w.text
  /-- What stood there before; all that was saved says the same. -/
  | before {text : String} (hbefore : before = some (some text))
      (hsame : ∀ value ∈ values, b.SaySame value.text text) : Stands before values text

variable {b} {before after : Option Stored} {values : List Json} {value : Json}
  {text text' : String}

theorem SaySame.content?_eq (h : b.SaySame text text') : b.content? text = b.content? text' := by
  obtain ⟨content, htext, htext'⟩ := h
  rw [htext, htext']

/-- All that can come of a save where a text stands. -/
theorem cases_kept? {kept : String} (h : b.kept? text (some (some text')) = some kept) :
    kept = text' ∧ b.SaySame text text' ∨ kept = text ∧ b.SayOther text' text := by
  obtain ⟨before, hbefore, h⟩ := Option.bind_eq_some_iff.1 h
  obtain ⟨content, hcontent, h⟩ := Option.bind_eq_some_iff.1 h
  obtain rfl := Option.some.inj h
  by_cases heq : before = content
  · exact .inl ⟨if_pos heq, before, heq ▸ hcontent, hbefore⟩
  · exact .inr ⟨if_neg heq, before, content, hbefore, hcontent, heq⟩

/-- The value that was saved last says what stands there, or is what stands there. -/
theorem Stands.content?_getLast? (h : b.Stands before values text)
    (hlast : values.getLast? = some value) : b.content? value.text = b.content? text := by
  cases h with
  | @saved front behind w hvalues hbehind hfront =>
    rw [hvalues, List.getLast?_append_of_ne_nil _ (List.cons_ne_nil _ _)] at hlast
    rcases List.mem_cons.1 (List.mem_of_getLast? hlast) with rfl | hmem
    · rfl
    · exact (hbehind value hmem).content?_eq
  | before hbefore hsame => exact (hsame value (List.mem_of_getLast? hlast)).content?_eq

/-- One more value takes the place of the text if it says something else. -/
theorem Stands.concat {kept : String} (h : b.Stands before values text)
    (hkept : b.kept? value.text (some (some text)) = some kept) :
    b.Stands before (values ++ [value]) kept := by
  rcases cases_kept? hkept with ⟨rfl, hsame⟩ | ⟨rfl, hother⟩
  · cases h with
    | @saved front behind w hvalues hbehind hfront =>
      have hmore : values ++ [value] = front ++ w :: (behind ++ [value]) := by simp [hvalues]
      refine .saved hmore (fun v hv => ?_) hfront
      rcases List.mem_append.1 hv with hv | hv
      · exact hbehind v hv
      · exact List.mem_singleton.1 hv ▸ hsame
    | before hbefore hall =>
      refine .before hbefore fun v hv => ?_
      rcases List.mem_append.1 hv with hv | hv
      · exact hall v hv
      · exact List.mem_singleton.1 hv ▸ hsame
  · refine .saved (rfl : values ++ [value] = values ++ value :: []) nofun fun v hv => ?_
    obtain ⟨content, content', hcontent, hcontent', hdiffer⟩ := hother
    exact ⟨content, content', (h.content?_getLast? hv).trans hcontent, hcontent', hdiffer⟩

theorem stands_singleton {kept : String} (hkept : b.kept? value.text before = some kept) :
    b.Stands before [value] kept := by
  have hsplit : [value] = [] ++ value :: [] := rfl
  match before, hkept with
  | none, rfl => exact .saved hsplit nofun nofun
  | some none, rfl => exact .saved hsplit nofun nofun
  | some (some text), hkept =>
    rcases cases_kept? hkept with ⟨rfl, hsame⟩ | ⟨rfl, -⟩
    · exact .before rfl fun v hv => List.mem_singleton.1 hv ▸ hsame
    · exact .saved hsplit nofun nofun

/-- What several saves leave. -/
theorem stands_of_leaves? (h : b.leaves? before values = some after) (hne : values ≠ []) :
    ∃ text, after = some (some text) ∧ b.Stands before values text := by
  induction values using List.reverseRecOn generalizing after with
  | nil => exact absurd rfl hne
  | append_singleton values value ih =>
    rw [leaves?, List.foldlM_append, Option.bind_eq_bind, Option.bind_eq_some_iff] at h
    obtain ⟨between, hbetween, h⟩ := h
    obtain ⟨kept, hkept, rfl⟩ : ∃ kept, b.kept? value.text between = some kept ∧
        some (some kept) = after := by simpa using h
    refine ⟨kept, rfl, ?_⟩
    by_cases hnil : values = []
    · subst hnil
      obtain rfl := Option.some.inj hbetween
      exact stands_singleton hkept
    · obtain ⟨text, rfl, hstands⟩ := ih hbetween hnil
      exact hstands.concat hkept

/-- By what they say: the text is that of the first of the last values that say the same. -/
theorem Stands.alike {last : Json} (h : b.Stands before values text)
    (hlast : values.getLast? = some last) (hcompares : b.Compares values) :
    (∃ front w behind, values = front ++ w :: behind ∧ text = w.text ∧
        (∀ value ∈ w :: behind, value.content = last.content) ∧
        ∀ value ∈ front.getLast?, value.content ≠ last.content) ∨
      before = some (some text) ∧ ∀ value ∈ values, b.SaySame value.text text := by
  cases h with
  | @saved front behind w hvalues hbehind hfront =>
    have hw : w ∈ values := by simp [hvalues]
    have halike : ∀ value ∈ w :: behind, value.content = w.content := by
      intro value hvalue
      rcases List.mem_cons.1 hvalue with rfl | hvalue
      · rfl
      · exact (hcompares value (by simp [hvalues, hvalue]) w hw).1 (hbehind value hvalue)
    have hsame : last.content = w.content := by
      rw [hvalues, List.getLast?_append_of_ne_nil _ (List.cons_ne_nil _ _)] at hlast
      exact halike last (List.mem_of_getLast? hlast)
    refine .inl ⟨front, w, behind, hvalues, rfl, fun value hvalue => ?_, fun value hvalue => ?_⟩
    · rw [hsame, halike value hvalue]
    · have hmem : value ∈ values := by simp [hvalues, List.mem_of_getLast? hvalue]
      rw [hsame]
      exact (hcompares value hmem w hw).2 (hfront value hvalue)
  | before hbefore hsame => exact .inr ⟨hbefore, hsame⟩

end Sql.Backend

namespace DocumentStore

open DocumentTable

section Operations

variable {s : DocumentStore} {b : Backend} {v v' start : Option Table} {outer s' : Sights}
  {past : List (Command × Reply)} {entries : List Entry} {key : String}

/-! ## Saving -/

/-- A save that came to its end, and the documents that were saved: those that the table starts
with, if it was made on the way, and those of the save. -/
inductive Succeeds (s : DocumentStore) (b : Backend) :
    Option Table → List Entry → Option Table → Prop where
  | save {pinned : Bool} {past : List (Command × Reply)} {outer : Sights} {v v' : Option Table}
      {key : String} {data : Json} (hpath : ((s.save key data).script pinned).Path past (.done ()))
      (h : Carries b s.table (v :: outer) past (v' :: outer)) :
      Succeeds s b v (s.table.sown v v' ++ [⟨key, data⟩]) v'
  | saveAll {pinned : Bool} {past : List (Command × Reply)} {outer : Sights}
      {v v' : Option Table} {items : List Json} {keys : List String}
      (hpath : ((s.saveAll items keys).script pinned).Path past (.done ()))
      (h : Carries b s.table (v :: outer) past (v' :: outer)) :
      Succeeds s b v (s.table.sown v v' ++ List.zipWith Entry.mk keys items) v'
  | update {pinned : Bool} {past : List (Command × Reply)} {outer : Sights} {v v' : Option Table}
      {q : Query} {f : List Entry → Except StoreError (List Entry)} {updated : List Entry}
      (hpath : ((s.queryAndUpdate q f).script pinned).Path past (.done updated))
      (h : Carries b s.table (v :: outer) past (v' :: outer)) :
      Succeeds s b v (s.table.sown v v' ++ updated) v'

/-- Saves that came to their end one after the other, and all documents that were saved. -/
inductive Saved (s : DocumentStore) (b : Backend) :
    Option Table → List Entry → Option Table → Prop where
  | nil (v : Option Table) : Saved s b v [] v
  | cons {v between v' : Option Table} {entries later : List Entry}
      (h : Succeeds s b v entries between) (hrest : Saved s b between later v') :
      Saved s b v (entries ++ later) v'

/-- An operation finds the table as it is left when it was seen to. -/
theorem of_operation {α : Type} {pinned : Bool} {body : TableLayout → Work α} {a : α}
    (hv : ∀ t ∈ v, IsDocuments t)
    (hpath : (s.table.resolve pinned >>= body).Path past (.done a))
    (h : Carries b s.table (v :: outer) past s') :
    ∃ layout between later, Puts b v (s.table.sown v between) between ∧
      (v.isSome = true → between = v) ∧ (body layout).Path later (.done a) ∧
      Carries b s.table (between :: outer) later s' := by
  obtain ⟨layout, first, later, rfl, hfirst, hlater⟩ := Script.Path.of_bind_done hpath
  obtain ⟨_, hcarried, h⟩ := Carries.append_iff.1 h
  obtain ⟨between, rfl, hputs, hstays⟩ := of_resolve hv hfirst hcarried
  exact ⟨layout, between, later, hputs, hstays, hlater, h⟩

/-- What is saved comes behind what the table starts with. -/
theorem puts_of_sown {between : Option Table} (hsown : Puts b v (s.table.sown v between) between)
    (hputs : Puts b between entries v' ∧ v'.isSome = between.isSome) :
    Puts b v (s.table.sown v v' ++ entries) v' := by
  have hsame : s.table.sown v v' = s.table.sown v between := by rw [sown, sown, hputs.2]
  rw [hsame]
  exact hsown.trans hputs.1

/-- An update saves what its function made of the documents that it locked. -/
theorem of_change {α : Type} {q : Query} {F : List Entry → Except StoreError (List Entry × α)}
    {layout : TableLayout} {a : α} (hv : ∀ t ∈ v, IsDocuments t)
    (hpath : (Script.send (.execute (q.selectKeyed s.tableName true)) >>=
      s.change F layout).Path past (.done a))
    (h : Carries b s.table (v :: outer) past s') :
    ∃ locked entries, F locked = .ok (entries, a) ∧
      ∃ v', s' = v' :: outer ∧ Puts b v entries v' ∧ v'.isSome = v.isSome := by
  obtain ⟨answer, later, rfl, hrest⟩ := Script.Path.of_sendOr hpath
  obtain ⟨locked, -, hrest⟩ := Script.Path.of_lift hrest
  obtain ⟨⟨entries, result⟩, hmade, hrest⟩ := Script.Path.of_lift hrest
  obtain ⟨done, first, second, rfl, hfirst, hsecond⟩ := Script.Path.of_bind_done hrest
  obtain ⟨rfl, hdone⟩ := Script.Path.of_done hsecond
  obtain rfl := Script.done.inj hdone
  rw [List.append_nil] at h
  exact ⟨locked, entries, hmade,
    of_upsertAll hv hfirst (h.of_lock (q.locksRows_selectKeyed s.tableName))⟩

theorem Succeeds.puts (hv : ∀ t ∈ v, IsDocuments t) (h : Succeeds s b v entries v') :
    Puts b v entries v' := by
  cases h with
  | save hpath h =>
    obtain ⟨layout, between, later, hsown, -, hbody, h⟩ := of_operation hv hpath h
    obtain ⟨_, hended, hputs⟩ := of_upsert hsown.documents hbody h
    obtain ⟨rfl, -⟩ := List.cons.inj hended
    exact puts_of_sown hsown hputs
  | @saveAll pinned past outer _ _ items keys hpath h =>
    obtain ⟨layout, between, later, hsown, -, hbody, h⟩ := of_operation hv hpath h
    split at hbody
    · exact nomatch (Script.Path.of_fail hbody).2
    · obtain ⟨done, first, second, rfl, hfirst, hsecond⟩ := Script.Path.of_bind_done hbody
      obtain ⟨_, hcarried, h⟩ := Carries.append_iff.1 h
      obtain ⟨_, rfl, hputs⟩ := hcarried.of_transaction hfirst
        fun _ _ hinner hserved => of_upsertAll hsown.documents hinner hserved
      cases hsecond with
      | log hsecond =>
        obtain ⟨rfl, -⟩ := Script.Path.of_done hsecond
        obtain ⟨rfl, -⟩ := List.cons.inj h
        exact puts_of_sown hsown hputs
  | @update pinned past outer _ _ q f updated hpath h =>
    rw [queryAndUpdate, script_updateWith] at hpath
    obtain ⟨layout, between, later, hsown, -, hbody, h⟩ := of_operation hv hpath h
    obtain ⟨_, hended, hputs⟩ := h.of_transaction (P := fun v' => Puts b between updated v' ∧
      v'.isSome = between.isSome) hbody fun first _ hinner hcarried => by
        obtain ⟨locked, entries, hmade, hputs⟩ := of_change hsown.documents hinner hcarried
        cases hf : f locked with
        | error e =>
          rw [hf] at hmade
          cases hmade
        | ok given =>
          rw [hf] at hmade
          cases hmade
          exact hputs
    obtain ⟨rfl, -⟩ := List.cons.inj hended
    exact puts_of_sown hsown hputs

theorem Saved.puts (hv : ∀ t ∈ v, IsDocuments t) (h : Saved s b v entries v') :
    Puts b v entries v' := by
  induction h with
  | nil v => exact .refl hv
  | cons h _ ih =>
    have hputs := h.puts hv
    exact hputs.trans (ih hputs.documents)

/-! ## Reading -/

/-- Reading the key gives this, and can come to its end whatever the connection. -/
structure Reads (s : DocumentStore) (b : Backend) (v : Option Table) (key : String)
    (found : Option Json) : Prop where
  only : ∀ {pinned : Bool} {past : List (Command × Reply)} {outer s' : Sights}
    {found' : Option Json}, ((s.get key).script pinned).Path past (.done found') →
    Carries b s.table (v :: outer) past s' → s' = v :: outer ∧ found' = found
  ends : ∀ (pinned : Bool) (outer : Sights), ∃ past,
    ((s.get key).script pinned).Path past (.done found) ∧
      Carries b s.table (v :: outer) past (v :: outer)

/-- The document that is read from a text. -/
theorem readFirst?_of_rows {answer : Answer} {text : String}
    (hrows : answer.rows = [[.text text]]) :
    (answer.readFirst? fun row => Cell.atPlace Cell.readJson row 0) =
      (Cell.readJson "0" (.text text)).map some := by
  rw [Answer.readFirst?, hrows]
  rfl

/-- A read that came to its end gives what is read from the text that stands there. -/
theorem of_get {pinned : Bool} {found : Option Json} {text : String} (hv : ∀ t ∈ v, IsDocuments t)
    (htext : standing? v key = some (some text))
    (hpath : ((s.get key).script pinned).Path past (.done found))
    (h : Carries b s.table (v :: outer) past s') :
    s' = v :: outer ∧ ∃ value, Json.read text = .ok value ∧ found = some value := by
  obtain ⟨layout, between, later, -, hstays, hbody, h⟩ := of_operation hv hpath h
  obtain ⟨t, rfl⟩ : ∃ t, v = some t := by
    cases v with
    | none => cases htext
    | some t => exact ⟨t, rfl⟩
  obtain rfl := hstays rfl
  obtain ⟨answer, rest, rfl, hrest⟩ := Script.Path.of_sendOr hbody
  obtain ⟨_, t', ⟨⟩, ⟨-, rfl, now, hgives⟩, hended⟩ :=
    h.of_execute (meaning_selectStatement s.table key) (s.table.locksRows_selectStatement key)
      (List.cons_ne_nil _ _)
  have hrows : answer.rows = [[.text text]] := by
    have hstored : stored? t' key = some (some text) := htext
    rw [(hv t' rfl).gives_iff.1 hgives, hstored]
    rfl
  rw [readFirst?_of_rows hrows, Cell.readJson] at hrest
  cases hread : Json.read text with
  | error fault =>
    rw [hread] at hrest
    cases (Script.Path.of_fail hrest).2
  | ok value =>
    rw [hread] at hrest
    obtain ⟨rfl, hdone⟩ := Script.Path.of_done hrest
    exact ⟨hended, value, rfl, Script.done.inj hdone⟩

/-- A text that can be read is read. -/
theorem reads_of_read {text : String} {value : Json} (hv : ∀ t ∈ v, IsDocuments t)
    (htext : standing? v key = some (some text)) (hread : Json.read text = .ok value) :
    Reads s b v key (some value) := by
  constructor
  · intro pinned past outer s' found hpath h
    obtain ⟨rfl, value', hread', rfl⟩ := of_get hv htext hpath h
    obtain rfl := Except.ok.inj (hread.symm.trans hread')
    exact ⟨rfl, rfl⟩
  · intro pinned outer
    obtain ⟨t, rfl⟩ : ∃ t, v = some t := by
      cases v with
      | none => cases htext
      | some t => exact ⟨t, rfl⟩
    refine ⟨[(.execute (s.table.selectStatement key), .ok ⟨[[.text text]], 1⟩)], ?_,
      some t :: outer, ?_, rfl⟩
    · refine @Script.Path.inspect _ _ _ (some .full) _ _ (.ask ?_)
      show Script.Path (Script.lift (Except.mapError (malformed key)
        (Answer.readFirst? (fun row => Cell.atPlace Cell.readJson row 0) ⟨[[.text text]], 1⟩))) [] _
      rw [readFirst?_of_rows rfl, Cell.readJson, hread]
      exact .refl _
    · have hstored : stored? t key = some (some text) := htext
      refine .execute (meaning_selectStatement s.table key) (s.table.locksRows_selectStatement key)
        ⟨rfl, rfl, 0, (hv t rfl).gives_iff.2 ?_⟩
      rw [hstored]
      rfl

/-! ## What is read after it was saved -/

/-- What stands under a key where something was saved. -/
theorem Saved.stands (hstart : ∀ t ∈ start, IsDocuments t) (h : Saved s b start entries v)
    (hne : Entry.valuesAt key entries ≠ []) :
    ∃ text, standing? v key = some (some text) ∧
      b.Stands (standing? start key) (Entry.valuesAt key entries) text :=
  Backend.stands_of_leaves? ((h.puts hstart).leaves key) hne

/-- The value that was saved last is read where it is the only one that says what it says. -/
theorem Saved.reads_last {last : Json} (hstart : ∀ t ∈ start, IsDocuments t)
    (hsaved : Saved s b start entries v)
    (hlast : (Entry.valuesAt key entries).getLast? = some last)
    (hcompares : b.Compares (Entry.valuesAt key entries))
    (honly : ∀ value ∈ Entry.valuesAt key entries, value.content = last.content → value = last)
    (hold : ∀ text, standing? start key = some (some text) → ¬ b.SaySame last.text text)
    (htravels : last.Travels) (hdepth : last.depth < Json.depthLimit) :
    Reads s b v key (some last) := by
  have hne : Entry.valuesAt key entries ≠ [] := List.ne_nil_of_mem (List.mem_of_getLast? hlast)
  obtain ⟨text, htext, hstands⟩ := hsaved.stands hstart hne
  rcases hstands.alike hlast hcompares with ⟨front, w, behind, hvalues, rfl, halike, -⟩ | hbefore
  · obtain rfl : w = last :=
      honly w (by simp [hvalues]) (halike w List.mem_cons_self)
    exact reads_of_read (hsaved.puts hstart).documents htext (Json.read_text htravels hdepth)
  · exact absurd (hbefore.2 last (List.mem_of_getLast? hlast)) (hold text hbefore.1)

/-- Without floating-point numbers the value that was saved last is read. -/
theorem reads_last_of_whole {last : Json} (hstart : ∀ t ∈ start, IsDocuments t)
    (hsaved : Saved s b start entries v) (hnew : standing? start key = none)
    (hlast : (Entry.valuesAt key entries).getLast? = some last)
    (hcompares : b.Compares (Entry.valuesAt key entries))
    (hwhole : ∀ value ∈ Entry.valuesAt key entries, value.IsWhole)
    (hdepth : last.depth < Json.depthLimit) : Reads s b v key (some last) := by
  have hlastWhole := hwhole last (List.mem_of_getLast? hlast)
  refine hsaved.reads_last hstart hlast hcompares (fun value hvalue hsame => ?_)
    (fun text htext => ?_) hlastWhole.travels hdepth
  · exact Json.eq_of_content_eq (hwhole value hvalue) hlastWhole hsame
  · exact nomatch hnew.symm.trans htext

/-- What is read under a key says what the value says that was saved there last.

It is the first of the last values that say the same, or what stood there before, if all that was
saved says the same, as it is read from its text; if that text cannot be read, then no read comes
to its end.  It is the value that was saved last, if this is the only one that says what it says
and comes back from its text. -/
theorem get_says_last_saved {last : Json} (hstart : ∀ t ∈ start, IsDocuments t)
    (hsaved : Saved s b start entries v)
    (hlast : (Entry.valuesAt key entries).getLast? = some last)
    (hcompares : b.Compares (Entry.valuesAt key entries)) :
    ∃ text, standing? v key = some (some text) ∧
      ((∃ front w behind, Entry.valuesAt key entries = front ++ w :: behind ∧ text = w.text ∧
          (∀ value ∈ w :: behind, value.content = last.content) ∧
          (∀ value ∈ front.getLast?, value.content ≠ last.content) ∧
          (w.Travels → w.depth < Json.depthLimit → Reads s b v key (some w))) ∨
        standing? start key = some (some text) ∧
          ∀ value ∈ Entry.valuesAt key entries, b.SaySame value.text text) ∧
      (∀ value, Json.read text = .ok value → Reads s b v key (some value)) ∧
      (∀ fault, Json.read text = .error fault →
        ∀ {pinned : Bool} {past : List (Command × Reply)} {outer s' : Sights}
          {found : Option Json}, ((s.get key).script pinned).Path past (.done found) →
          ¬ Carries b s.table (v :: outer) past s') ∧
      ((∀ value ∈ Entry.valuesAt key entries, value.content = last.content → value = last) →
        (∀ old, standing? start key = some (some old) → ¬ b.SaySame last.text old) →
        last.Travels → last.depth < Json.depthLimit → Reads s b v key (some last)) := by
  have hdocuments := (hsaved.puts hstart).documents
  have hne : Entry.valuesAt key entries ≠ [] := List.ne_nil_of_mem (List.mem_of_getLast? hlast)
  obtain ⟨text, htext, hstands⟩ := hsaved.stands hstart hne
  refine ⟨text, htext, ?_, fun value hread => reads_of_read hdocuments htext hread,
    fun fault hread pinned past outer s' found hpath hcarried => ?_,
    hsaved.reads_last hstart hlast hcompares⟩
  · rcases hstands.alike hlast hcompares with
      ⟨front, w, behind, hvalues, rfl, halike, hother⟩ | hbefore
    · exact .inl ⟨front, w, behind, hvalues, rfl, halike, hother, fun htravels hdepth =>
        reads_of_read hdocuments htext (Json.read_text htravels hdepth)⟩
    · exact .inr hbefore
  · obtain ⟨-, value, hread', -⟩ := of_get hdocuments htext hpath hcarried
    exact nomatch hread.symm.trans hread'

end Operations

/-- Where the table is known a save is its statement. -/
theorem path_save (s : DocumentStore) (pinned : Bool) (layout : TableLayout) (e : Entry)
    (answer : Answer) :
    ((s.save e.key e.data).script pinned).Path
      [(.execute (s.table.upsertStatement layout e), .ok answer)] (.done ()) :=
  @Script.Path.inspect _ _ _ (some layout) _ _ (.ask (.refl _))

/-! ### A one that is saved again with a point -/

namespace Ones

def store : DocumentStore :=
  ⟨⟨⟨"notes", by decide +kernel, by decide +kernel⟩, none⟩, .ofSeconds 30⟩

/-- A database for which `1.0` says what `1` says. -/
def backend : Backend :=
  ⟨fun _ => true, fun text => some (if text = "1.0" then "1" else text), 2147483647⟩

def one : Json := .number (.integer 1)

/-- The floating-point number. -/
def double : Decimal.Binary64 := ⟨0x3FF0000000000000⟩

def onePoint : Json := .number (.real double)

theorem text_one : one.text = "1" := by decide +kernel

theorem text_onePoint : onePoint.text = "1.0" := by decide +kernel

theorem content_onePoint : onePoint.content = one.content := by
  have hzero : double.isZero = false := by decide +kernel
  have hnegative : double.isNegative = false := by decide +kernel
  have hshortest : Decimal.shortest double = ⟨['1'], 0⟩ := by decide +kernel
  have hdigits : Nat.ofDigitChars 10 ['1'] 0 = 1 := by decide
  have hvalue : (Number.real double).value = (Number.integer 1).value := by
    simp [Number.value, hzero, hnegative, hshortest, Decimal.Digits.value, hdigits]
  exact congrArg Content.number hvalue

/-- The table as it is made, with these rows. -/
def holding (rows : List Row) : Table :=
  ⟨[⟨"id", .value .null⟩, ⟨"data", .value .null⟩, ⟨"version", .value (.integer 1)⟩,
    ⟨"last_updated", .now⟩, ⟨"date_created", .now⟩], rows⟩

/-- The row of the one. -/
def row : Row :=
  [("id", .text "a"), ("data", .json "1"), ("version", .integer 1), ("last_updated", .instant 0),
    ("date_created", .instant 0)]

/-- An exchange in which the table is made and the one saved. -/
def saving : List (Command × Reply) :=
  [(.execute store.table.columnsStatement, .ok ⟨[], 0⟩), (.begin, .ok ⟨[], 0⟩),
    (.execute store.table.createStatement, .ok ⟨[], 0⟩), (.commit, .ok ⟨[], 0⟩),
    (.execute (store.table.upsertStatement .full ⟨"a", one⟩), .ok ⟨[], 1⟩)]

/-- An exchange in which it is saved with a point, which changes no row. -/
def savingAgain : List (Command × Reply) :=
  [(.execute (store.table.upsertStatement .full ⟨"a", onePoint⟩), .ok ⟨[], 0⟩)]

theorem path_saving : ((store.save "a" one).script false).Path saving (.done ()) :=
  @Script.Path.inspect _ _ _ none _ _
    (.ask (.ask (.ask (.ask (.log (.remember (.ask (.refl _))))))))

theorem path_savingAgain :
    ((store.save "a" onePoint).script false).Path savingAgain (.done ()) :=
  store.path_save false .full ⟨"a", onePoint⟩ _

theorem run?_saving :
    (TableLayout.full.saving "notes").run? backend 0 [.text "a", .text one.text] (holding []) =
      some (holding [row]) := by
  decide +kernel

theorem run?_savingAgain :
    (TableLayout.full.saving "notes").run? backend 0 [.text "a", .text onePoint.text]
      (holding [row]) = some (holding [row]) := by
  decide +kernel

theorem carries_upsert {e : Entry} {t t' : Table} {now : Int} {answer : Answer}
    (h : (TableLayout.full.saving "notes").run? backend now [.text e.key, .text e.data.text] t =
      some t') :
    Carries backend store.table [some t]
      [(.execute (store.table.upsertStatement .full e), .ok answer)] [some t'] :=
  ⟨_, .execute (TableLayout.full.meaning_upsertSql store.table.name)
    (store.table.locksRows_upsertStatement .full e) ⟨rfl, now, h⟩, rfl⟩

theorem carries_saving : Carries backend store.table [none] saving [some (holding [row])] :=
  ⟨_, .columns rfl, _, .begin, _, .create (by decide) (rfl : (holding []).rows = []), _, .commit,
    carries_upsert run?_saving⟩

/-- What is saved. -/
def documents : List Entry := [⟨"a", one⟩, ⟨"a", onePoint⟩]

theorem saved : Saved store backend none documents (some (holding [row])) :=
  .cons (.save path_saving carries_saving)
    (.cons (.save path_savingAgain (carries_upsert run?_savingAgain)) (.nil _))

theorem valuesAt_documents : Entry.valuesAt "a" documents = [one, onePoint] := rfl

theorem compares : backend.Compares (Entry.valuesAt "a" documents) := by
  have hsaid : ∀ value ∈ [one, onePoint],
      value.content = one.content ∧ backend.content? value.text = some "1" := by
    intro value hvalue
    rcases List.mem_pair.1 hvalue with rfl | rfl
    · exact ⟨rfl, by rw [text_one]; rfl⟩
    · exact ⟨content_onePoint, by rw [text_onePoint]; rfl⟩
  rw [valuesAt_documents]
  intro v hv w hw
  obtain ⟨hvContent, hvText⟩ := hsaid v hv
  obtain ⟨hwContent, hwText⟩ := hsaid w hw
  refine ⟨fun _ => hvContent.trans hwContent.symm, ?_⟩
  rintro ⟨content, content', hcontent, hcontent', hdiffer⟩
  exact absurd (Option.some.inj (hcontent.symm.trans (hvText.trans (hwText.symm.trans hcontent'))))
    hdiffer

theorem nothing : ∀ t ∈ (none : Option Table), IsDocuments t := nofun

theorem read_one : Json.read "1" = .ok one := by decide +kernel

/-- The one is read, as it was saved at first. -/
theorem get_says_last_saved_one :
    (∀ t ∈ (none : Option Table), IsDocuments t) ∧
      Saved store backend none documents (some (holding [row])) ∧
      (Entry.valuesAt "a" documents).getLast? = some onePoint ∧
      backend.Compares (Entry.valuesAt "a" documents) ∧
      Reads store backend (some (holding [row])) "a" (some one) := by
  obtain ⟨text, htext, -, hreads, -⟩ := get_says_last_saved nothing saved rfl compares
  have hone : standing? (some (holding [row])) "a" = some (some "1") := by decide +kernel
  obtain rfl : "1" = text := Option.some.inj (Option.some.inj (hone.symm.trans htext))
  exact ⟨nothing, saved, rfl, compares, hreads one read_one⟩

/-- Not always is the value read that was saved last. -/
theorem not_reads_last_saved :
    ¬ ∀ (s : DocumentStore) (b : Backend) (start v : Option Table) (entries : List Entry)
      (key : String) (last : Json), (∀ t ∈ start, IsDocuments t) → Saved s b start entries v →
      (Entry.valuesAt key entries).getLast? = some last →
      b.Compares (Entry.valuesAt key entries) →
      ∀ (pinned : Bool) (past : List (Command × Reply)) (after : Sights) (found : Option Json),
        ((s.get key).script pinned).Path past (.done found) →
        Carries b s.table [v] past after → found = some last := by
  intro h
  have hone : standing? (some (holding [row])) "a" = some (some "1") := by decide +kernel
  have hreads : Reads store backend (some (holding [row])) "a" (some one) :=
    reads_of_read (saved.puts nothing).documents hone read_one
  obtain ⟨past, hpath, hcarried⟩ := hreads.ends false []
  have hlast := h store backend none _ documents "a" onePoint nothing saved rfl compares false
    past _ (some one) hpath hcarried
  exact nomatch Option.some.inj hlast

end Ones

end DocumentStore

end DocStore
