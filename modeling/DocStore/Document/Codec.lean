import DocStore.Error

/-!
# Models of documents

A codec says how values of a type are kept as documents.  Both directions can
fail.
-/

namespace DocStore

/-- Values of a type as documents. -/
structure Codec (α : Type) where
  encode : α → Except StoreError Json
  decode : Json → Except StoreError α

/-- Documents that are read by a decoder and written by a function. -/
def Codec.ofDecoder {α : Type} (d : Decoder α) (toJson : α → Json) : Codec α where
  encode value := .ok (toJson value)
  decode := d.run

end DocStore
