/-!
# Entries by key

A finite map from texts is a list of entries sorted by key, with one entry for
each key. Texts are compared character by character, which is also the order of
their bytes in UTF-8. Inserting keeps the order and replaces the entry of an equal
key, so the last insertion wins.
-/

namespace Stencil

variable {α : Type}

/-- The entries with `value` at `key`, in place of what was there. -/
def insertEntry (key : String) (value : α) : List (String × α) → List (String × α)
  | [] => [(key, value)]
  | (k, v) :: rest =>
    if key = k then (key, value) :: rest
    else if key < k then (key, value) :: (k, v) :: rest
    else (k, v) :: insertEntry key value rest

/-- The value at a key. -/
def lookupEntry (key : String) : List (String × α) → Option α
  | [] => none
  | (k, v) :: rest => if key = k then some v else lookupEntry key rest

/-- The entries of a list of insertions, made in order. -/
def entriesOf (items : List (String × α)) : List (String × α) :=
  items.foldl (fun entries (k, v) => insertEntry k v entries) []

@[simp] theorem lookupEntry_nil (key : String) : lookupEntry key ([] : List (String × α)) = none :=
  rfl

/-- An insertion is found at its key, and changes nothing at any other key. -/
theorem lookupEntry_insertEntry (key k : String) (value : α) (entries : List (String × α)) :
    lookupEntry k (insertEntry key value entries) =
      if k = key then some value else lookupEntry k entries := by
  induction entries with
  | nil => simp [insertEntry, lookupEntry]
  | cons e rest ih => grind [insertEntry, lookupEntry]

end Stencil
