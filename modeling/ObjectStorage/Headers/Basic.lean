import ObjectStorage.Dictionary
import ObjectStorage.Text.Casing

/-!
# Headers

Named texts that accompany a resource.  Names are looked up in a canonical spelling, in which every
word between hyphens begins with a capital.
-/

namespace ObjectStorage

namespace Headers

/-- Capitals at the start and after each hyphen, small letters elsewhere. -/
def canonical (capital : Bool) : List Char → List Char
  | [] => []
  | c :: rest =>
      (if capital then Text.upperCase c else Text.lowerCase c) ++ canonical (c = '-') rest

def canonicalName (name : String) : String := String.ofList (canonical true name.toList)

def IsSpelling (key : String) : Prop := ∃ name, canonicalName name = key

end Headers

structure Headers where
  entries : Dictionary String
  spelled : ∀ key ∈ entries.keys, Headers.IsSpelling key
  deriving DecidableEq

namespace Headers

def empty : Headers := ⟨Dictionary.empty, nofun⟩

def get? (headers : Headers) (name : String) : Option String :=
  headers.entries.get? (canonicalName name)

def contains (headers : Headers) (name : String) : Bool :=
  headers.entries.contains (canonicalName name)

def set (headers : Headers) (name value : String) : Headers where
  entries := headers.entries.insert (canonicalName name) value
  spelled key h := by
    rcases Dictionary.mem_keys_insert h with rfl | h
    · exact ⟨name, rfl⟩
    · exact headers.spelled key h

def erase (headers : Headers) (name : String) : Headers where
  entries := headers.entries.erase (canonicalName name)
  spelled key h := headers.spelled key (Dictionary.mem_keys_erase h)

def size (headers : Headers) : Nat := headers.entries.size

def isEmpty (headers : Headers) : Bool := headers.entries.isEmpty

def toList (headers : Headers) : List (String × String) := headers.entries.toList

/-- Takes over the entries of other headers, names as they stand. -/
def extend (headers others : Headers) : Headers where
  entries := headers.entries.insertAll others.toList
  spelled key h := by
    rcases Dictionary.mem_keys_insertAll h with h | h
    · exact others.spelled key h
    · exact headers.spelled key h

def setAll (headers : Headers) (entries : List (String × String)) : Headers :=
  entries.foldl (fun headers entry => headers.set entry.1 entry.2) headers

def ofList (entries : List (String × String)) : Headers := empty.setAll entries

end Headers

end ObjectStorage
