import DocStore.Proofs.Table.Saving

/-!
# Tables of documents

What the statements of a layout do to a table of documents (`Fits`), whose rows can be older
than some of its columns (`IsDocument`).

* A save adds a row, changes one or leaves the table alone, or it is refused (`Saves`):
  `saves_run?`.
* Each key keeps its one row, and other rows stay: `Saves.fits`, `Saves.rowAt?_of_ne`.
* The version starts at one and grows with each change: `Saves.version_eq`.
* A report gives the rows of the keys that are asked for, in the order of these keys:
  `Fits.of_gives`; there always is one: `Fits.exists_gives`.
-/

namespace DocStore.TableLayout

open Sql

/-! ## A table of documents -/

/-- A row of a document, with columns of these names; its data and what is kept of its
history can be missing. -/
structure IsDocument (l : TableLayout) (names : List String) (row : Row) : Prop where
  names : row.map Prod.fst = names
  key : ∃ key, row.lookup "id" = some (.text key)
  data : row.lookup "data" = some .null ∨ ∃ text, row.lookup "data" = some (.json text)
  version : l.version = true →
    row.lookup "version" = some .null ∨ ∃ n, row.lookup "version" = some (.integer n)
  lastUpdated : l.lastUpdated = true →
    row.lookup "last_updated" = some .null ∨
      ∃ moment, row.lookup "last_updated" = some (.instant moment)

/-- A table of documents with this layout, every key in one row.  New rows take version one or
none, and now or no time. -/
structure Fits (l : TableLayout) (t : Table) : Prop where
  layout : ofColumns? t.names = some l
  columns : "id" ∈ t.names ∧ "data" ∈ t.names
  version : ∀ c ∈ t.columns, c.name = "version" →
    c.default = .value .null ∨ c.default = .value (.integer 1)
  lastUpdated : ∀ c ∈ t.columns, c.name = "last_updated" →
    c.default = .value .null ∨ c.default = .now
  rows : ∀ row ∈ t.rows, l.IsDocument t.names row
  once : (t.rows.map (·.lookup "id")).Nodup

/-- The row of a key. -/
def rowAt? (t : Table) (key : String) : Option Row :=
  t.rows.find? fun row => row.lookup "id" = some (.text key)

/-- The version of a row; the first, if none is kept. -/
def versionOf (l : TableLayout) (row : Row) : Int :=
  if l.version then
    match row.lookup "version" with
    | some (.integer n) => n
    | _ => 1
  else 1

/-- What the document of a row says. -/
def contentOf? (b : Backend) (row : Row) : Option Datum :=
  (row.lookup "data").bind (Datum.cast? b "jsonb")

/-- Whether a document says something else than that of a row; none if one of them cannot be
told. -/
def isChange? (b : Backend) (payload : String) (row : Row) : Option Bool := do
  let stored ← contentOf? b row
  let content ← b.content? payload
  return stored ≠ .content content

/-- The row of a new document. -/
def newRow (t : Table) (now : Int) (key payload : String) : Row :=
  (t.defaults now).updated [("id", .text key), ("data", .json payload)]

/-- What is set in the row of a document that has changed. -/
def news (l : TableLayout) (now : Int) (payload : String) (row : Row) : Row :=
  ("data", .json payload) ::
    (if l.version then [("version", .integer (l.versionOf row + 1))] else []) ++
    (if l.lastUpdated then [("last_updated", .instant now)] else [])

/-- What a save makes of a table; none if it is refused. -/
inductive Saves (b : Backend) (l : TableLayout) (now : Int) (key payload : String) (t : Table) :
    Option Table → Prop where
  /-- The text is no JSON. -/
  | malformed (hjson : b.isJson payload = false) : Saves b l now key payload t none
  | new (hjson : b.isJson payload = true) (hrow : rowAt? t key = none) :
      Saves b l now key payload t
        (some { t with rows := t.rows ++ [newRow t now key payload] })
  /-- The documents cannot be compared. -/
  | unreadable {row : Row} (hrow : rowAt? t key = some row)
      (hchange : isChange? b payload row = none) : Saves b l now key payload t none
  | same {row : Row} (hjson : b.isJson payload = true) (hrow : rowAt? t key = some row)
      (hchange : isChange? b payload row = some false) : Saves b l now key payload t (some t)
  /-- The version would be too great. -/
  | beyond {row : Row} (hrow : rowAt? t key = some row)
      (hchange : isChange? b payload row = some true) (hversion : l.version = true)
      (hbeyond : b.greatest < l.versionOf row + 1) : Saves b l now key payload t none
  | changed {front behind : List Row} {row : Row} (hjson : b.isJson payload = true)
      (hrows : t.rows = front ++ row :: behind)
      (hfront : ∀ other ∈ front, other.lookup "id" ≠ some (.text key))
      (hrow : rowAt? t key = some row) (hchange : isChange? b payload row = some true)
      (hwithin : ¬ (l.version = true ∧ b.greatest < l.versionOf row + 1)) :
      Saves b l now key payload t
        (some { t with rows := front ++ row.updated (l.news now payload row) :: behind })

namespace Fits

variable {l : TableLayout} {t : Table} {name : String}

theorem eq_layout (ht : l.Fits t) :
    l = ⟨t.names.contains "version", t.names.contains "last_updated",
      t.names.contains "date_created"⟩ := by
  have hlayout := ht.layout
  rw [ofColumns?] at hlayout
  split at hlayout
  · exact nomatch hlayout
  · exact (Option.some.inj hlayout).symm

theorem version_iff (ht : l.Fits t) : l.version = true ↔ "version" ∈ t.names := by
  rw [ht.eq_layout]
  exact List.contains_iff_mem

theorem lastUpdated_iff (ht : l.Fits t) : l.lastUpdated = true ↔ "last_updated" ∈ t.names := by
  rw [ht.eq_layout]
  exact List.contains_iff_mem

/-- The table has the columns that a save sets. -/
theorem mem_names_of_change (ht : l.Fits t) :
    ∀ change ∈ (l.saving name).changes, change.1 ∈ t.names := by
  intro change hchange
  rcases List.mem_append.1 hchange with hchange | hlast
  · rcases List.mem_cons.1 hchange with rfl | hversion
    · exact ht.columns.2
    · split at hversion
      · rename_i h
        obtain rfl := List.mem_singleton.1 hversion
        exact ht.version_iff.1 h
      · exact absurd hversion List.not_mem_nil
  · split at hlast
    · rename_i h
      obtain rfl := List.mem_singleton.1 hlast
      exact ht.lastUpdated_iff.1 h
    · exact absurd hlast List.not_mem_nil

end Fits

section Saves

variable {l : TableLayout} {b : Backend} {now : Int} {key payload name : String} {t : Table}
  {params : List Datum} {proposed row : Row}

theorem proposed?_saving (hcolumns : "id" ∈ t.names ∧ "data" ∈ t.names) :
    (l.saving name).proposed? b now [.text key, .text payload] t =
      if b.isJson payload then some (newRow t now key payload) else none := by
  rw [Upsert.proposed?_of_columns (by simp [saving, hcolumns]) rfl]
  cases h : b.isJson payload <;> simp [saving, Term.eval?, Datum.cast?, newRow, h]

/-- The condition of a save is whether it changes the document. -/
theorem meant?_differs (hdata : proposed.lookup "data" = some (.json payload))
    (hrow : row.lookup "data" = some .null ∨ ∃ text, row.lookup "data" = some (.json text)) :
    meant? b ((l.saving name).env now params proposed row) (some differs) =
      isChange? b payload row := by
  have hstanding : ((l.saving name).env now params proposed row).row? (some "doc") = some row := rfl
  have hproposed : ((l.saving name).env now params proposed row).row? (some "excluded") =
      some proposed := rfl
  simp only [meant?, differs, Term.eval?, hstanding, hproposed, hdata, Option.bind_some,
    isChange?, contentOf?]
  cases hpayload : b.content? payload with
  | none => rcases hrow with hnull | ⟨text, htext⟩ <;> simp_all [Datum.cast?]
  | some content =>
    rcases hrow with hnull | ⟨text, htext⟩
    · simp [hnull, hpayload, Datum.cast?, Datum.distinct?]
    · cases hstored : b.content? text <;>
        simp [htext, hstored, hpayload, Datum.cast?, Datum.distinct?]

/-- The version of the row is what the sum starts from. -/
theorem eval?_nextVersion (hrow : l.IsDocument t.names row) (hversion : l.version = true)
    {env : Env} (henv : env.row? (some "doc") = some row) :
    nextVersion.eval? b env =
      if l.versionOf row + 1 ≤ b.greatest then some (.integer (l.versionOf row + 1)) else none := by
  simp only [nextVersion, Term.eval?, henv, versionOf, hversion, Option.bind_some]
  rcases hrow.version hversion with hnull | ⟨n, hn⟩
  · simp [hnull, Datum.add?]
  · simp [hn, Datum.add?]

/-- The new values are those of the save, unless the version would be too great. -/
theorem news?_saving (hdata : proposed.lookup "data" = some (.json payload))
    (hrow : l.IsDocument t.names row) :
    (l.saving name).news? b now params proposed row =
      if l.version = true ∧ b.greatest < l.versionOf row + 1 then none
      else some (l.news now payload row) := by
  have hstanding : ((l.saving name).env now params proposed row).row? (some "doc") = some row := rfl
  have hproposed : ((l.saving name).env now params proposed row).row? (some "excluded") =
      some proposed := rfl
  have hnow : ((l.saving name).env now params proposed row).now = now := rfl
  have hlast : (if l.lastUpdated then [("last_updated", Term.now)] else []).mapM (fun change =>
      (change.2.eval? b ((l.saving name).env now params proposed row)).map (change.1, ·)) =
        some (if l.lastUpdated then [("last_updated", .instant now)] else []) := by
    cases l.lastUpdated <;> simp [Term.eval?, hnow]
  have hversion : (if l.version then [("version", nextVersion)] else []).mapM (fun change =>
      (change.2.eval? b ((l.saving name).env now params proposed row)).map (change.1, ·)) =
        if l.version = true ∧ b.greatest < l.versionOf row + 1 then none
        else some (if l.version then [("version", .integer (l.versionOf row + 1))] else []) := by
    cases h : l.version with
    | false => simp
    | true =>
      by_cases hle : l.versionOf row + 1 ≤ b.greatest
      · simp [eval?_nextVersion hrow h hstanding, hle, Int.not_lt.2 hle]
      · simp [eval?_nextVersion hrow h hstanding, hle, Int.not_le.1 hle]
  have hchanges : (l.saving name).changes = ("data", .column (some "excluded") "data") ::
      (if l.version then [("version", nextVersion)] else []) ++
        (if l.lastUpdated then [("last_updated", Term.now)] else []) := rfl
  rw [Upsert.news?, hchanges, List.cons_append, List.mapM_cons, List.mapM_append, hversion, hlast]
  by_cases hbeyond : l.version = true ∧ b.greatest < l.versionOf row + 1
  · simp [Term.eval?, hproposed, hdata, hbeyond]
  · simp only [Term.eval?, hproposed, hdata, news, if_neg hbeyond, Option.bind_some]
    rfl

/-- What becomes of the row that stands under the key. -/
theorem changed?_saving (hdata : proposed.lookup "data" = some (.json payload))
    (ht : l.Fits t) (hrow : row ∈ t.rows) :
    (l.saving name).changed? b now params proposed row =
      (isChange? b payload row).bind fun change =>
        if change then
          if l.version = true ∧ b.greatest < l.versionOf row + 1 then none
          else some (row.updated (l.news now payload row))
        else some row := by
  have hmeant : meant? b ((l.saving name).env now params proposed row)
      (l.saving name).condition = isChange? b payload row :=
    meant?_differs hdata (ht.rows row hrow).data
  cases hchange : isChange? b payload row with
  | none =>
    rw [Upsert.changed?, hmeant, hchange]
    rfl
  | some change =>
    rw [hchange] at hmeant
    cases change with
    | false => exact Upsert.changed?_of_not_meant hmeant
    | true =>
      have hset : ∀ change ∈ (l.saving name).changes, change.1 ∈ row.map Prod.fst := by
        rw [(ht.rows row hrow).names]
        exact ht.mem_names_of_change
      rw [Upsert.changed?_of_meant hmeant hset, news?_saving hdata (ht.rows row hrow)]
      simp only [Option.bind_some, if_true]
      split <;> rfl

theorem lookup_newRow (hcolumns : "id" ∈ t.names ∧ "data" ∈ t.names) (now : Int)
    (key payload : String) :
    (newRow t now key payload).lookup "id" = some (.text key) ∧
      (newRow t now key payload).lookup "data" = some (.json payload) := by
  obtain ⟨_, -, -, hd⟩ := Table.exists_lookup_defaults hcolumns.1 now
  obtain ⟨_, -, -, hd'⟩ := Table.exists_lookup_defaults hcolumns.2 now
  rw [newRow, Row.lookup_updated, Row.lookup_updated, hd, hd']
  exact ⟨rfl, rfl⟩

/-- A save does one of the things that are listed. -/
theorem saves_run? (ht : l.Fits t) :
    Saves b l now key payload t
      ((l.saving name).run? b now [.text key, .text payload] t) := by
  rw [Upsert.run?, proposed?_saving ht.columns]
  cases hjson : b.isJson payload with
  | false => exact .malformed hjson
  | true =>
    obtain ⟨hid, hdata⟩ := lookup_newRow ht.columns now key payload
    show Saves b l now key payload t ((Upsert.rows? b now _ (l.saving name) _ t.rows).bind _)
    cases hrow : rowAt? t key with
    | none =>
      have hother : ∀ row ∈ t.rows,
          row.lookup "id" ≠ (newRow t now key payload).lookup "id" := by
        rw [hid]
        simpa [rowAt?] using hrow
      rw [Upsert.rows?_of_forall_ne hother]
      exact .new hjson hrow
    | some row =>
      obtain ⟨hkey, front, behind, hrows, hfront⟩ := List.find?_eq_some_iff_append.1 hrow
      have hsame : row.lookup "id" = (newRow t now key payload).lookup "id" :=
        (of_decide_eq_true hkey).trans hid.symm
      have hother : ∀ row ∈ front, row.lookup "id" ≠ (newRow t now key payload).lookup "id" := by
        rw [hid]
        simpa using hfront
      have hmem : row ∈ t.rows := List.mem_of_find?_eq_some hrow
      have hall : Upsert.rows? b now [.text key, .text payload] (l.saving name)
          (newRow t now key payload) t.rows =
            (Upsert.changed? b now [.text key, .text payload] (l.saving name)
              (newRow t now key payload) row).map fun row => front ++ row :: behind := by
        rw [hrows]
        exact Upsert.rows?_of_front hother hsame
      rw [hall, changed?_saving hdata ht hmem]
      cases hchange : isChange? b payload row with
      | none => exact .unreadable hrow hchange
      | some change =>
        cases change with
        | false =>
          have hsame : (⟨t.columns, front ++ row :: behind⟩ : Table) = t := by rw [← hrows]
          show Saves b l now key payload t (some ⟨t.columns, front ++ row :: behind⟩)
          rw [hsame]
          exact .same hjson hrow hchange
        | true =>
          by_cases hbeyond : l.version = true ∧ b.greatest < l.versionOf row + 1
          · rw [Option.bind_some, if_pos rfl, if_pos hbeyond]
            exact .beyond hrow hchange hbeyond.1 hbeyond.2
          · rw [Option.bind_some, if_pos rfl, if_neg hbeyond]
            exact .changed hjson hrows (hid ▸ hother) hrow hchange hbeyond

end Saves

/-! ## What a save keeps -/

section Keeps

variable {l : TableLayout} {b : Backend} {now : Int} {key payload : String} {t t' : Table}
  {row : Row}

theorem lookup_news (l : TableLayout) (now : Int) (payload : String) (row : Row) (name : String) :
    (l.news now payload row).lookup name =
      if name = "data" then some (.json payload)
      else if name = "version" ∧ l.version = true then some (.integer (l.versionOf row + 1))
      else if name = "last_updated" ∧ l.lastUpdated = true then some (.instant now)
      else none := by
  rw [news]
  by_cases hdata : name = "data"
  · simp [hdata]
  · by_cases hversion : name = "version"
    · cases l.version <;> cases l.lastUpdated <;> simp [hversion, List.lookup_cons]
    · by_cases hlast : name = "last_updated"
      · cases l.version <;> cases l.lastUpdated <;> simp [hlast, List.lookup_cons]
      · cases l.version <;> cases l.lastUpdated <;>
          simp [List.lookup_cons, hdata, hversion, hlast, beq_false_of_ne]

/-- A column of a new row that is not given has its default. -/
theorem lookup_newRow_of_ne {name : String} (hid : name ≠ "id") (hdata : name ≠ "data") :
    (newRow t now key payload).lookup name = (t.defaults now).lookup name := by
  rw [newRow, Row.lookup_updated]
  simp [List.lookup_cons, beq_false_of_ne hid, beq_false_of_ne hdata]

theorem Fits.lookup_version_newRow (ht : l.Fits t) (h : l.version = true) :
    (newRow t now key payload).lookup "version" = some .null ∨
      (newRow t now key payload).lookup "version" = some (.integer 1) := by
  obtain ⟨c, hc, hname, hlookup⟩ := Table.exists_lookup_defaults (ht.version_iff.1 h) now
  rw [lookup_newRow_of_ne (by decide) (by decide), hlookup]
  rcases ht.version c hc hname with hdefault | hdefault
  · exact .inl (by rw [hdefault]; rfl)
  · exact .inr (by rw [hdefault]; rfl)

theorem Fits.lookup_lastUpdated_newRow (ht : l.Fits t) (h : l.lastUpdated = true) :
    (newRow t now key payload).lookup "last_updated" = some .null ∨
      (newRow t now key payload).lookup "last_updated" = some (.instant now) := by
  obtain ⟨c, hc, hname, hlookup⟩ := Table.exists_lookup_defaults (ht.lastUpdated_iff.1 h) now
  rw [lookup_newRow_of_ne (by decide) (by decide), hlookup]
  rcases ht.lastUpdated c hc hname with hdefault | hdefault
  · exact .inl (by rw [hdefault]; rfl)
  · exact .inr (by rw [hdefault]; rfl)

theorem Fits.isDocument_newRow (ht : l.Fits t) :
    l.IsDocument t.names (newRow t now key payload) := by
  obtain ⟨hid, hdata⟩ := lookup_newRow ht.columns now key payload
  refine ⟨?_, ⟨key, hid⟩, .inr ⟨payload, hdata⟩, fun h => ?_, fun h => ?_⟩
  · rw [newRow, Row.names_updated, Table.names_defaults]
  · exact (ht.lookup_version_newRow h).imp_right fun hone => ⟨1, hone⟩
  · exact (ht.lookup_lastUpdated_newRow h).imp_right fun hnow => ⟨now, hnow⟩

theorem Fits.versionOf_newRow (ht : l.Fits t) : l.versionOf (newRow t now key payload) = 1 := by
  rw [versionOf]
  split
  · rename_i h
    rcases ht.lookup_version_newRow h with hnull | hone
    · rw [hnull]
    · rw [hone]
  · rfl

/-- A column that a save does not set stays as it is. -/
theorem lookup_updated_of_ne {name : String} (hdata : name ≠ "data")
    (hversion : name = "version" → l.version = false)
    (hlast : name = "last_updated" → l.lastUpdated = false) :
    (row.updated (l.news now payload row)).lookup name = row.lookup name := by
  have hnone : (l.news now payload row).lookup name = none := by
    rw [lookup_news, if_neg hdata, if_neg, if_neg]
    · rintro ⟨hname, hkept⟩
      exact absurd (hlast hname) (by simp [hkept])
    · rintro ⟨hname, hkept⟩
      exact absurd (hversion hname) (by simp [hkept])
  exact Row.lookup_updated_of_none hnone

theorem IsDocument.exists_data {names : List String} (hrow : l.IsDocument names row) :
    ∃ d, row.lookup "data" = some d := by
  rcases hrow.data with hnull | ⟨text, htext⟩
  · exact ⟨_, hnull⟩
  · exact ⟨_, htext⟩

theorem IsDocument.lookup_data_updated {names : List String} (hrow : l.IsDocument names row) :
    (row.updated (l.news now payload row)).lookup "data" = some (.json payload) := by
  obtain ⟨d, hd⟩ := hrow.exists_data
  exact Row.lookup_updated_of_some hd (by simp [lookup_news])

theorem IsDocument.lookup_version_updated {names : List String} (hrow : l.IsDocument names row)
    (h : l.version = true) :
    (row.updated (l.news now payload row)).lookup "version" =
      some (.integer (l.versionOf row + 1)) := by
  have hnews : (l.news now payload row).lookup "version" =
      some (.integer (l.versionOf row + 1)) := by
    simp [lookup_news, h]
  rcases hrow.version h with hnull | ⟨n, hn⟩
  · exact Row.lookup_updated_of_some hnull hnews
  · exact Row.lookup_updated_of_some hn hnews

theorem IsDocument.lookup_lastUpdated_updated {names : List String} (hrow : l.IsDocument names row)
    (h : l.lastUpdated = true) :
    (row.updated (l.news now payload row)).lookup "last_updated" = some (.instant now) := by
  have hnews : (l.news now payload row).lookup "last_updated" = some (.instant now) := by
    simp [lookup_news, h]
  rcases hrow.lastUpdated h with hnull | ⟨moment, hmoment⟩
  · exact Row.lookup_updated_of_some hnull hnews
  · exact Row.lookup_updated_of_some hmoment hnews

theorem IsDocument.updated {names : List String} (hrow : l.IsDocument names row) :
    l.IsDocument names (row.updated (l.news now payload row)) := by
  obtain ⟨id, hid⟩ := hrow.key
  refine ⟨?_, ⟨id, ?_⟩, .inr ⟨payload, hrow.lookup_data_updated⟩,
    fun h => .inr ⟨_, hrow.lookup_version_updated h⟩,
    fun h => .inr ⟨now, hrow.lookup_lastUpdated_updated h⟩⟩
  · rw [Row.names_updated, hrow.names]
  · rw [lookup_updated_of_ne (by simp) (by simp) (by simp), hid]

theorem IsDocument.versionOf_updated {names : List String} (hrow : l.IsDocument names row) :
    l.versionOf (row.updated (l.news now payload row)) =
      l.versionOf row + if l.version then 1 else 0 := by
  cases h : l.version with
  | false => simp [versionOf, h]
  | true =>
    rw [versionOf, hrow.lookup_version_updated h]
    simp [h]

theorem rowAt?_eq_none_iff :
    rowAt? t key = none ↔ ∀ row ∈ t.rows, row.lookup "id" ≠ some (.text key) := by
  simp [rowAt?]

theorem lookup_id_of_rowAt? (h : rowAt? t key = some row) : row.lookup "id" = some (.text key) := by
  simpa using List.find?_some h

theorem mem_of_rowAt? (h : rowAt? t key = some row) : row ∈ t.rows := List.mem_of_find?_eq_some h

/-- A table keeps its layout and one row for each key. -/
theorem Saves.fits (ht : l.Fits t) (h : Saves b l now key payload t (some t')) : l.Fits t' := by
  cases h with
  | same => exact ht
  | new hjson hrow =>
    refine ⟨ht.layout, ht.columns, ht.version, ht.lastUpdated, fun row hmem => ?_, ?_⟩
    · rcases List.mem_append.1 hmem with hold | hnew
      · exact ht.rows row hold
      · obtain rfl := List.mem_singleton.1 hnew
        exact ht.isDocument_newRow
    · rw [List.map_append, List.map_singleton, (lookup_newRow ht.columns now key payload).1]
      refine List.nodup_append.2 ⟨ht.once, List.nodup_singleton _, ?_⟩
      rintro id hid _ hkey rfl
      obtain ⟨row, hmem, rfl⟩ := List.mem_map.1 hid
      exact rowAt?_eq_none_iff.1 hrow row hmem (List.mem_singleton.1 hkey)
  | @changed front behind row hjson hrows hfront hrow hchange =>
    have hdocument : l.IsDocument t.names row := ht.rows row (mem_of_rowAt? hrow)
    refine ⟨ht.layout, ht.columns, ht.version, ht.lastUpdated, fun other hmem => ?_, ?_⟩
    · rcases List.mem_append.1 hmem with hfront | hmem
      · exact ht.rows other (hrows ▸ List.mem_append_left _ hfront)
      · rcases List.mem_cons.1 hmem with rfl | hbehind
        · exact hdocument.updated
        · exact ht.rows other (hrows ▸ List.mem_append_right _ (List.mem_cons_of_mem _ hbehind))
    · have hid : (row.updated (l.news now payload row)).lookup "id" = row.lookup "id" :=
        lookup_updated_of_ne (by simp) (by simp) (by simp)
      have honce := ht.once
      rw [hrows] at honce
      simpa [hid] using honce

/-- Under other keys stands what stood there. -/
theorem Saves.rowAt?_of_ne (ht : l.Fits t) (h : Saves b l now key payload t (some t'))
    {other : String} (hne : other ≠ key) : rowAt? t' other = rowAt? t other := by
  have hdatum : (some (.text key) : Option Datum) ≠ some (.text other) := by
    simpa using Ne.symm hne
  cases h with
  | same => rfl
  | new hjson hrow =>
    simp [rowAt?, List.find?_append, (lookup_newRow ht.columns now key payload).1, hdatum]
  | @changed front behind row hjson hrows hfront hrow hchange =>
    have hid : (row.updated (l.news now payload row)).lookup "id" = row.lookup "id" :=
      lookup_updated_of_ne (by simp) (by simp) (by simp)
    simp [rowAt?, hrows, List.find?_append, hid, lookup_id_of_rowAt? hrow, hdatum]

/-- Under the key stands the new row, the one that stood there, or what became of it. -/
theorem Saves.rowAt?_self (ht : l.Fits t) (h : Saves b l now key payload t (some t')) :
    rowAt? t' key = some (match rowAt? t key with
      | none => newRow t now key payload
      | some row =>
          if isChange? b payload row = some true then row.updated (l.news now payload row)
          else row) := by
  cases h with
  | same hjson hrow hchange => simp [hrow, hchange]
  | new hjson hrow =>
    rw [hrow]
    rw [rowAt?] at hrow
    simp [rowAt?, List.find?_append, hrow, (lookup_newRow ht.columns now key payload).1]
  | @changed front behind row hjson hrows hfront hrow hchange =>
    have hid : (row.updated (l.news now payload row)).lookup "id" = some (.text key) :=
      (lookup_updated_of_ne (by simp) (by simp) (by simp)).trans (lookup_id_of_rowAt? hrow)
    have hnone : (front.find? fun row => row.lookup "id" = some (.text key)) = none := by
      simpa using hfront
    rw [hrow]
    simp [rowAt?, List.find?_append, hnone, hid, hchange]

/-- The version starts at one, and grows with every change if it is kept. -/
theorem Saves.version_eq (ht : l.Fits t) (h : Saves b l now key payload t (some t')) :
    (rowAt? t' key).map l.versionOf = some (match rowAt? t key with
      | none => 1
      | some row => l.versionOf row +
          if l.version = true ∧ isChange? b payload row = some true then 1 else 0) := by
  rw [h.rowAt?_self ht, Option.map_some]
  cases hrow : rowAt? t key with
  | none => rw [ht.versionOf_newRow]
  | some row =>
    by_cases hchange : isChange? b payload row = some true
    · simp [hchange, (ht.rows row (mem_of_rowAt? hrow)).versionOf_updated]
    · simp [hchange]

/-- What is saved once more has not changed. -/
theorem isChange?_of_data (hdata : row.lookup "data" = some (.json payload)) :
    isChange? b payload row ≠ some true := by
  rw [isChange?, contentOf?, hdata]
  cases h : b.content? payload <;> simp [Datum.cast?, h]

theorem Saves.isChange?_self (ht : l.Fits t) (h : Saves b l now key payload t (some t'))
    (hrow : rowAt? t' key = some row) : isChange? b payload row ≠ some true := by
  rw [h.rowAt?_self ht, Option.some.injEq] at hrow
  subst hrow
  cases hold : rowAt? t key with
  | none => exact isChange?_of_data (lookup_newRow ht.columns now key payload).2
  | some old =>
    by_cases hchange : isChange? b payload old = some true
    · simp only [hchange, if_true]
      exact isChange?_of_data (ht.rows old (mem_of_rowAt? hold)).lookup_data_updated
    · simpa only [if_neg hchange] using hchange

/-- A save that changes nothing leaves the table as it is. -/
theorem Saves.eq_of_not_change {result : Option Table} (h : Saves b l now key payload t result)
    (hrow : rowAt? t key = some row) (hchange : isChange? b payload row ≠ some true) :
    result.getD t = t := by
  cases h with
  | malformed => rfl
  | unreadable => rfl
  | same => rfl
  | beyond => rfl
  | new hjson hnone => exact nomatch hnone.symm.trans hrow
  | changed hjson hrows hfront hrow' hchange' =>
    obtain rfl := Option.some.inj (hrow'.symm.trans hrow)
    exact absurd hchange' hchange

/-- Why a save is refused. -/
theorem Saves.eq_none_iff {result : Option Table} (h : Saves b l now key payload t result) :
    result = none ↔ b.isJson payload = false ∨ ∃ row, rowAt? t key = some row ∧
      (isChange? b payload row = none ∨ isChange? b payload row = some true ∧
        l.version = true ∧ b.greatest < l.versionOf row + 1) := by
  cases h with
  | malformed hjson => exact iff_of_true rfl (.inl hjson)
  | unreadable hrow hchange => exact iff_of_true rfl (.inr ⟨_, hrow, .inl hchange⟩)
  | beyond hrow hchange hversion hbeyond =>
    exact iff_of_true rfl (.inr ⟨_, hrow, .inr ⟨hchange, hversion, hbeyond⟩⟩)
  | new hjson hrow => simp [hjson, hrow]
  | same hjson hrow hchange => simp [hjson, hrow, hchange]
  | changed hjson hrows hfront hrow hchange hwithin => simpa [hjson, hrow, hchange] using hwithin

end Keeps

/-! ## What is reported -/

section Reports

variable {l : TableLayout} {b : Backend} {now : Int} {t : Table} {name : String}
  {keys : List String} {row : Row}

/-- The time of the last change of a row; now, if none is kept. -/
def lastUpdatedOf (l : TableLayout) (now : Int) (row : Row) : Int :=
  if l.lastUpdated then
    match row.lookup "last_updated" with
    | some (.instant moment) => moment
    | _ => now
  else now

theorem IsDocument.lookup_id {names : List String} (hrow : l.IsDocument names row) :
    row.lookup "id" = some (.text (row.textAt "id")) := by
  obtain ⟨id, hid⟩ := hrow.key
  rw [Row.textAt, hid]

theorem eval?_versionTerm {names : List String} (hrow : l.IsDocument names row) {env : Env}
    (henv : env.row? none = some row) :
    l.versionTerm.eval? b env = some (.integer (l.versionOf row)) := by
  cases h : l.version with
  | false => simp [versionTerm, versionOf, h, Term.eval?, Datum.cast?]
  | true =>
    rcases hrow.version h with hnull | ⟨n, hn⟩
    · simp [versionTerm, versionOf, h, Term.eval?, Datum.cast?, henv, hnull]
    · simp [versionTerm, versionOf, h, Term.eval?, Datum.cast?, henv, hn]

theorem eval?_lastUpdatedTerm {names : List String} (hrow : l.IsDocument names row) {env : Env}
    (henv : env.row? none = some row) :
    l.lastUpdatedTerm.eval? b env = some (.instant (l.lastUpdatedOf env.now row)) := by
  cases h : l.lastUpdated with
  | false => simp [lastUpdatedTerm, lastUpdatedOf, h, Term.eval?]
  | true =>
    rcases hrow.lastUpdated h with hnull | ⟨moment, hmoment⟩
    · simp [lastUpdatedTerm, lastUpdatedOf, h, Term.eval?, Datum.cast?, henv, hnull]
    · simp [lastUpdatedTerm, lastUpdatedOf, h, Term.eval?, Datum.cast?, henv, hmoment]

/-- What is reported of a row. -/
def report (l : TableLayout) (now : Int) (row : Row) : List Cell :=
  [.text (row.textAt "id"), .integer (l.versionOf row), .integer (l.lastUpdatedOf now row)]

theorem cells?_reporting {names : List String} (hrow : l.IsDocument names row)
    {params : List Datum} :
    (l.reporting name).cells? b now params row = some (l.report now row) := by
  have hitems : (l.reporting name).items =
      [.cast (.column none "id") "text", l.versionTerm, l.lastUpdatedTerm] := rfl
  have henv := Fetch.row?_env now params (l.reporting name) row
  rw [Fetch.cells?, hitems, mapM_eq_some_iff]
  refine .cons ?_ (.cons ?_ (.cons ?_ .nil))
  · simp [Term.eval?, hrow.lookup_id, Datum.cast?, Datum.cell?]
  · rw [eval?_versionTerm hrow henv]
    rfl
  · rw [eval?_lastUpdatedTerm hrow henv]
    rfl

/-- The rows of the keys are meant. -/
theorem meant?_reporting {names : List String} (hrow : l.IsDocument names row) :
    meant? b ((l.reporting name).env now [.texts keys] row) (l.reporting name).condition =
      some (keys.contains (row.textAt "id")) := by
  have henv := Fetch.row?_env now [.texts keys] (l.reporting name) row
  have hparam : ((l.reporting name).env now [.texts keys] row).params[0]? =
      some (.texts keys) := rfl
  have hcondition : (l.reporting name).condition =
      some (.among (.column none "id") (.placeholder 1)) := rfl
  rw [hcondition]
  simp [meant?, Term.eval?, henv, hparam, hrow.lookup_id, Datum.among?]

/-- The rows are put in order by the places of their keys in the list. -/
theorem eval?_order {names : List String} (hrow : l.IsDocument names row)
    (hkey : row.textAt "id" ∈ keys) :
    (Term.position (.placeholder 1) (.cast (.column none "id") "text")).eval? b
      ((l.reporting name).env now [.texts keys] row) =
        some (.integer (keys.idxOf (row.textAt "id") + 1)) := by
  have henv := Fetch.row?_env now [.texts keys] (l.reporting name) row
  have hparam : ((l.reporting name).env now [.texts keys] row).params[0]? =
      some (.texts keys) := rfl
  simp [Term.eval?, henv, hparam, hrow.lookup_id, Datum.cast?, Datum.position?, hkey]

theorem Fits.rowAt?_isSome_iff (ht : l.Fits t) {key : String} :
    (rowAt? t key).isSome = true ↔ ∃ row ∈ t.rows, row.textAt "id" = key := by
  rw [rowAt?, List.find?_isSome]
  refine exists_congr fun row => and_congr_right fun hrow => ?_
  simp [(ht.rows row hrow).lookup_id]

/-- A row stands under its own key. -/
theorem Fits.rowAt?_of_mem (ht : l.Fits t) (hrow : row ∈ t.rows) :
    rowAt? t (row.textAt "id") = some row := by
  have hmem : row ∈ (rowAt? t (row.textAt "id")).toList := by
    rw [rowAt?, ← filter_eq_toList_find? ht.once]
    exact List.mem_filter.2 ⟨hrow, decide_eq_true (ht.rows row hrow).lookup_id⟩
  exact Option.mem_toList.1 hmem

theorem Fits.nodup_ids (ht : l.Fits t) : (t.rows.map fun row => row.textAt "id").Nodup := by
  have hids : t.rows.map (·.lookup "id") =
      (t.rows.map fun row => row.textAt "id").map fun id => some (.text id) := by
    rw [List.map_map]
    exact List.map_congr_left fun row hrow => (ht.rows row hrow).lookup_id
  exact .of_map _ (hids ▸ ht.once)

/-- The rows of the keys are reported, each once and in the order of the keys. -/
theorem Fits.of_gives (ht : l.Fits t) {answer : List (List Cell)}
    (h : (l.reporting name).Gives b now [.texts keys] t.rows answer) :
    ∃ picked : List Row, (∀ row ∈ picked, row ∈ t.rows) ∧ answer = picked.map (l.report now) ∧
      (picked.map fun row => row.textAt "id").Pairwise
        (fun id id' => keys.idxOf id < keys.idxOf id') ∧
      ∀ key, key ∈ (picked.map fun row => row.textAt "id") ↔
        key ∈ keys ∧ (rowAt? t key).isSome = true := by
  obtain ⟨picked, hpicks, hcells⟩ := h
  have hperm := hpicks.perm_of_meant fun row hrow => meant?_reporting (ht.rows row hrow)
  have hmem : ∀ row, row ∈ picked ↔ row ∈ t.rows ∧ row.textAt "id" ∈ keys := by
    intro row
    rw [hperm.mem_iff, List.mem_filter, List.contains_iff_mem]
  refine ⟨picked, fun row hrow => ((hmem row).1 hrow).1, ?_, ?_, fun key => ?_⟩
  · rw [mapM_eq_some_map fun row hrow => cells?_reporting (ht.rows row ((hmem row).1 hrow).1)]
      at hcells
    exact (Option.some.inj hcells).symm
  · have honce : (picked.map fun row => row.textAt "id").Nodup :=
      (hperm.map _).nodup_iff.2 ((List.filter_sublist.map _).nodup ht.nodup_ids)
    have hordered := hpicks.inOrder _ rfl
    rw [List.Nodup, List.pairwise_map] at honce
    rw [List.pairwise_map]
    refine (hordered.and honce).imp_of_mem ?_
    rintro row row' hrow hrow' ⟨⟨d, d', hd, hd', hle⟩, hne⟩
    obtain ⟨hin, hkey⟩ := (hmem row).1 hrow
    obtain ⟨hin', hkey'⟩ := (hmem row').1 hrow'
    obtain rfl := Option.some.inj ((eval?_order (ht.rows row hin) hkey).symm.trans hd)
    obtain rfl := Option.some.inj ((eval?_order (ht.rows row' hin') hkey').symm.trans hd')
    have hdiffer := mt (List.idxOf_inj hkey).1 hne
    have hplaces : (keys.idxOf (row.textAt "id") + 1 : Int) ≤ keys.idxOf (row'.textAt "id") + 1 :=
      of_decide_eq_true hle
    omega
  · rw [List.mem_map, ht.rowAt?_isSome_iff]
    constructor
    · rintro ⟨row, hrow, rfl⟩
      obtain ⟨hin, hkey⟩ := (hmem row).1 hrow
      exact ⟨hkey, row, hin, rfl⟩
    · rintro ⟨hkey, row, hin, rfl⟩
      exact ⟨row, (hmem row).2 ⟨hin, hkey⟩, rfl⟩

/-- The statement that reports is answered. -/
theorem Fits.exists_gives (ht : l.Fits t) (b : Backend) (now : Int) (name : String)
    (keys : List String) :
    ∃ answer, (l.reporting name).Gives b now [.texts keys] t.rows answer := by
  let place (row row' : Row) : Bool :=
    keys.idxOf (row.textAt "id") ≤ keys.idxOf (row'.textAt "id")
  let meant := t.rows.filter fun row => keys.contains (row.textAt "id")
  have hmem : ∀ row ∈ meant.mergeSort place, row ∈ t.rows ∧ row.textAt "id" ∈ keys := by
    intro row hrow
    rw [List.mem_mergeSort, List.mem_filter, List.contains_iff_mem] at hrow
    exact hrow
  refine ⟨_, meant.mergeSort place, ⟨fun row hrow => ?_, ?_, ?_⟩,
    mapM_eq_some_map fun row hrow => cells?_reporting (ht.rows row (hmem row hrow).1)⟩
  · rw [meant?_reporting (ht.rows row hrow)]
    rfl
  · refine (List.mergeSort_perm _ _).trans (List.Perm.of_eq (List.filter_congr fun row hrow => ?_))
    rw [meant?_reporting (ht.rows row hrow)]
    simp
  · rintro term ⟨⟩
    have htrans : ∀ r r' r'' : Row, place r r' → place r' r'' → place r r'' := by
      simp only [place, decide_eq_true_eq]
      omega
    have htotal : ∀ r r' : Row, place r r' || place r' r := by
      simp only [place, Bool.or_eq_true, decide_eq_true_eq]
      omega
    refine (List.pairwise_mergeSort htrans htotal meant).imp_of_mem ?_
    intro row row' hrow hrow' hle
    obtain ⟨hin, hkey⟩ := hmem row hrow
    obtain ⟨hin', hkey'⟩ := hmem row' hrow'
    refine ⟨_, _, eval?_order (ht.rows row hin) hkey, eval?_order (ht.rows row' hin') hkey', ?_⟩
    have hplaces := of_decide_eq_true hle
    simpa [Datum.precedes] using hplaces

end Reports

end DocStore.TableLayout
