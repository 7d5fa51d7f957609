import DocStore.Document.Codec
import DocStore.Document.Store

/-!
# Stores of models

A document store seen through a codec.  Models are written before the store is
asked and read after it has answered; only an update reads and writes in the
midst of its transaction.  A document that is no model is reported with its key
where the key is known.
-/

namespace DocStore

/-- A document store whose documents are models. -/
structure TypedStore (α : Type) where
  store : DocumentStore
  codec : Codec α

namespace TypedStore

variable {α : Type}

/-- The model of a document. -/
def readEntry (s : TypedStore α) (e : Entry) : Except StoreError (String × α) :=
  match s.codec.decode e.data with
  | .ok item => .ok (e.key, item)
  | .error cause => .error (.malformedDocument e.key cause.message)

/-- The document of a model. -/
def writeEntry (s : TypedStore α) (item : String × α) : Except StoreError Entry :=
  (s.codec.encode item.2).map fun data => ⟨item.1, data⟩

/-- Saves a model; fails at once if it has no document. -/
def save (s : TypedStore α) (item : α) (key : String) :
    Except StoreError (Operation TableLayout Unit) :=
  (s.codec.encode item).map fun data => s.store.save key data

/-- Saves every model under the key of its place; fails at once if one has no document. -/
def saveAll (s : TypedStore α) (items : List α) (keys : List String) :
    Except StoreError (Operation TableLayout Unit) :=
  (items.mapM s.codec.encode).map fun data => s.store.saveAll data keys

/-- The model under a key, of what the store gave. -/
def readOne (s : TypedStore α) (key : String) : Option Json → Except StoreError (Option α)
  | none => .ok none
  | some data => (s.readEntry ⟨key, data⟩).map fun item => some item.2

/-- The models of what the store gave. -/
def readAll (s : TypedStore α) (documents : List Json) : Except StoreError (List α) :=
  documents.mapM s.codec.decode

/-- What an update makes of the locked documents: their models, changed and written again. -/
def transform (s : TypedStore α) (f : List (String × α) → Except StoreError (List (String × α)))
    (locked : List Entry) : Except StoreError (List Entry × List (String × α)) := do
  let items ← locked.mapM s.readEntry
  let updated ← f items
  let entries ← updated.mapM s.writeEntry
  .ok (entries, updated)

/-- Locks the models that a query means and saves what a function makes of them; gives what
was saved. -/
def queryAndUpdate (s : TypedStore α) (q : Query)
    (f : List (String × α) → Except StoreError (List (String × α))) :
    Operation TableLayout (List (String × α)) :=
  s.store.updateWith q (s.transform f)

end TypedStore

end DocStore
