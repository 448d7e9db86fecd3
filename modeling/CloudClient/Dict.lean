/-!
# Dictionaries in key order

A dictionary is a list of entries sorted by key. Keys compare by code point, which is also the
order of their UTF-8 bytes. Insertion replaces the entry of an equal key in the same pass, so the
look-up laws below hold of every list, sorted or not.
-/

namespace CloudClient

abbrev Dict (α : Type) := List (String × α)

namespace Dict
variable {α β : Type}

def get? (d : Dict α) (key : String) : Option α :=
  match d with
  | [] => none
  | (k, v) :: rest => if k = key then some v else get? rest key

def contains (d : Dict α) (key : String) : Bool := (get? d key).isSome

def keys (d : Dict α) : List String := d.map Prod.fst

def insert (d : Dict α) (key : String) (value : α) : Dict α :=
  match d with
  | [] => [(key, value)]
  | (k, v) :: rest =>
    if k = key then (key, value) :: rest
    else if key < k then (key, value) :: (k, v) :: rest
    else (k, v) :: insert rest key value

def erase (d : Dict α) (key : String) : Dict α := d.filter fun (k, _) => k != key

/-- Entries in the order given; the last entry of a key wins. -/
def ofList (entries : List (String × α)) : Dict α :=
  entries.foldl (fun d (k, v) => insert d k v) []

def overlay (d other : Dict α) : Dict α := other.foldl (fun d (k, v) => insert d k v) d

def mapValues (f : α → β) (d : Dict α) : Dict β := d.map fun (k, v) => (k, f v)

theorem get?_insert_self (d : Dict α) (key : String) (value : α) :
    get? (insert d key value) key = some value := by
  induction d with
  | nil => simp [insert, get?]
  | cons entry rest ih =>
    obtain ⟨k, v⟩ := entry
    simp only [insert]
    split
    · simp [get?]
    · split
      · simp [get?]
      · simp_all [get?]

theorem get?_insert_of_ne (d : Dict α) {key other : String} (value : α) (h : other ≠ key) :
    get? (insert d key value) other = get? d other := by
  induction d with
  | nil => simp [insert, get?, Ne.symm h]
  | cons entry rest ih =>
    obtain ⟨k, v⟩ := entry
    simp only [insert]
    split
    · simp_all [get?, Ne.symm h]
    · split
      · simp [get?, Ne.symm h]
      · simp [get?, ih]

theorem get?_mapValues (f : α → β) (d : Dict α) (key : String) :
    get? (mapValues f d) key = (get? d key).map f := by
  induction d with
  | nil => rfl
  | cons entry rest ih =>
    obtain ⟨k, v⟩ := entry
    by_cases hk : k = key
    · simp [mapValues, get?, hk]
    · simpa [mapValues, get?, hk] using ih

theorem get?_erase_self (d : Dict α) (key : String) : get? (erase d key) key = none := by
  induction d with
  | nil => rfl
  | cons entry rest ih =>
    obtain ⟨k, v⟩ := entry
    by_cases h : k = key <;> simp_all [erase, get?]

theorem get?_erase_of_ne (d : Dict α) {key other : String} (h : other ≠ key) :
    get? (erase d key) other = get? d other := by
  induction d with
  | nil => rfl
  | cons entry rest ih =>
    obtain ⟨k, v⟩ := entry
    by_cases hk : k = key
    · have : k ≠ other := fun e => h (e ▸ hk)
      simp_all [erase, get?]
    · by_cases ho : k = other <;> simp_all [erase, get?]

end Dict
end CloudClient
