import Mathlib.Data.List.Nodup

/-!
# Python dictionaries with string keys

The plugin keeps its runtime state in Python `dict`s keyed by joint name:
`_joint_pos`, `_robot_joint_limits`, and the `current_pos` map `_state_cb` builds
from a feedback message.  A `PyDict α` is such a dict: its entries in insertion
order, each key once.  The order matters, because `_on_joint_state_change`
iterates over `current_pos.keys()` and may stop half-way.

`set` is `d[k] = v`: it overwrites an existing key in place, and appends a new
one at the end, as CPython does.  The uniqueness of keys is a field of the
structure, so every dict the model builds is well formed.

## Main definitions

* `PyDict α` — an insertion-ordered dict with unique `String` keys.
* `PyDict.get?`, `PyDict.set`, `PyDict.update` — `d.get(k)`, `d[k] = v`,
  `d.update(e)`.
* `PyDict.get?_set`, `PyDict.keys_set` — the two laws every proof cites.
-/

namespace RqtJtc

/-- A Python `dict` with `str` keys, in insertion order. -/
structure PyDict (α : Type) where
  entries : List (String × α)
  nodup : (entries.map Prod.fst).Nodup
  deriving DecidableEq

namespace PyDict
variable {α : Type}

/-- The value of the first entry with key `k`. -/
def find (k : String) : List (String × α) → Option α
  | [] => none
  | (a, b) :: l => if a = k then some b else find k l

/-- Overwrite the value of key `k`, keeping every key where it is. -/
def replace (k : String) (v : α) : List (String × α) → List (String × α)
  | [] => []
  | (a, b) :: l => (a, if a = k then v else b) :: replace k v l

/-- `{}`. -/
def empty : PyDict α := ⟨[], List.nodup_nil⟩

/-- `list(d.keys())`. -/
def keys (d : PyDict α) : List String := d.entries.map Prod.fst

/-- `d.get(k)`; `None` is where `d[k]` raises `KeyError`. -/
def get? (d : PyDict α) (k : String) : Option α := find k d.entries

/-- `len(d)`. -/
def size (d : PyDict α) : Nat := d.entries.length

/-- `not d`. -/
def isEmpty (d : PyDict α) : Bool := d.entries.isEmpty

@[simp] theorem keys_replace (l : List (String × α)) (k : String) (v : α) :
    (replace k v l).map Prod.fst = l.map Prod.fst := by
  induction l with
  | nil => rfl
  | cons e l ih => simp [replace, ih]

theorem find_replace (l : List (String × α)) (k k' : String) (v : α) :
    find k' (replace k v l) = if k = k' ∧ k ∈ l.map Prod.fst then some v else find k' l := by
  induction l with
  | nil => simp [replace, find]
  | cons e l ih =>
    obtain ⟨a, b⟩ := e
    by_cases h : a = k'
    · subst h
      by_cases h' : a = k
      · simp [replace, find, h']
      · simp [replace, find, h', Ne.symm h']
    · by_cases hk : k = k'
      · subst hk
        simp only [replace, find, if_neg h, ih, List.map_cons, List.mem_cons, Ne.symm h, false_or]
      · simp [replace, find, h, ih, hk]

theorem find_isSome (l : List (String × α)) (k : String) :
    (find k l).isSome ↔ k ∈ l.map Prod.fst := by
  induction l with
  | nil => simp [find]
  | cons e l ih =>
    obtain ⟨a, b⟩ := e
    by_cases h : a = k
    · simp [find, h]
    · simp [find, h, ih, Ne.symm h]

theorem find_append {l : List (String × α)} {k : String} (k' : String) {v : α}
    (h : k ∉ l.map Prod.fst) : find k' (l ++ [(k, v)]) = if k = k' then some v else find k' l := by
  induction l with
  | nil => simp [find]
  | cons e l ih =>
    obtain ⟨a, b⟩ := e
    simp only [List.map_cons, List.mem_cons, not_or] at h
    by_cases ha : a = k'
    · subst ha; simp [find, h.1]
    · simp [find, ha, ih h.2]

/-- `d[k] = v`. -/
def set (d : PyDict α) (k : String) (v : α) : PyDict α :=
  if h : k ∈ d.keys then ⟨replace k v d.entries, by rw [keys_replace]; exact d.nodup⟩
  else ⟨d.entries ++ [(k, v)], by
    rw [List.map_append, List.nodup_append]
    exact ⟨d.nodup, List.nodup_singleton _, by simpa [keys] using h⟩⟩

/-- `d.update(e)`: the entries of `e`, in order, written into `d`. -/
def update (d e : PyDict α) : PyDict α := e.entries.foldl (fun acc p => acc.set p.1 p.2) d

theorem mem_keys (d : PyDict α) (k : String) : k ∈ d.keys ↔ (d.get? k).isSome :=
  (find_isSome d.entries k).symm

theorem get?_eq_none (d : PyDict α) (k : String) : d.get? k = none ↔ k ∉ d.keys := by
  rw [mem_keys, Option.not_isSome_iff_eq_none]

@[simp] theorem keys_empty : (empty : PyDict α).keys = [] := rfl
@[simp] theorem get?_empty (k : String) : (empty : PyDict α).get? k = none := rfl
@[simp] theorem size_empty : (empty : PyDict α).size = 0 := rfl

theorem size_eq_length_keys (d : PyDict α) : d.size = d.keys.length := by
  simp [size, keys]

theorem isEmpty_iff (d : PyDict α) : d.isEmpty ↔ d.keys = [] := by
  simp [isEmpty, keys]

theorem keys_set (d : PyDict α) (k : String) (v : α) :
    (d.set k v).keys = if k ∈ d.keys then d.keys else d.keys ++ [k] := by
  unfold set; split <;> simp [keys, *]

/-- Writing an existing key keeps the key list. -/
theorem keys_set_of_mem {d : PyDict α} {k : String} (h : k ∈ d.keys) (v : α) :
    (d.set k v).keys = d.keys := by
  rw [keys_set, if_pos h]

@[simp] theorem get?_set (d : PyDict α) (k k' : String) (v : α) :
    (d.set k v).get? k' = if k = k' then some v else d.get? k' := by
  unfold set get?
  split
  · rw [find_replace]; by_cases hk : k = k' <;> simp_all [keys]
  · exact find_append _ (by simpa [keys] using ‹k ∉ d.keys›)

theorem keys_nodup (d : PyDict α) : d.keys.Nodup := d.nodup

/-- Writing a fresh key appends an entry. -/
theorem entries_set_of_not_mem {d : PyDict α} {k : String} (h : k ∉ d.keys) (v : α) :
    (d.set k v).entries = d.entries ++ [(k, v)] := by
  unfold set; rw [dif_neg h]

/-- Writing entries with fresh, distinct keys appends them. -/
theorem entries_foldl_set (d : PyDict α) (l : List (String × α))
    (h : (d.keys ++ l.map Prod.fst).Nodup) :
    (l.foldl (fun d e => d.set e.1 e.2) d).entries = d.entries ++ l := by
  induction l generalizing d with
  | nil => simp
  | cons e l ih =>
    have hk : e.1 ∉ d.keys := fun hk =>
      (List.nodup_append.1 h).2.2 hk (List.mem_cons_self e.1 (l.map Prod.fst))
    have hs : (d.set e.1 e.2).keys = d.keys ++ [e.1] := by rw [keys_set, if_neg hk]
    rw [List.foldl_cons, ih _ (by simpa [hs] using h), entries_set_of_not_mem hk,
      List.append_assoc, List.singleton_append]

/-- The keys after writing a list of entries. -/
theorem mem_keys_foldl_set (d : PyDict α) (l : List (String × α)) (k : String) :
    k ∈ (l.foldl (fun d e => d.set e.1 e.2) d).keys ↔ k ∈ d.keys ∨ k ∈ l.map Prod.fst := by
  induction l generalizing d with
  | nil => simp
  | cons e l ih =>
    rw [List.foldl_cons, ih, keys_set]
    split_ifs with he
    · simp only [List.map_cons, List.mem_cons]
      constructor
      · rintro (h | h)
        · exact .inl h
        · exact .inr (.inr h)
      · rintro (h | rfl | h)
        · exact .inl h
        · exact .inl he
        · exact .inr h
    · simp [or_assoc]

/-- Writing fresh keys one after another appends them to the key list. -/
theorem keys_foldl_set (d : PyDict α) (l : List String) (v : α) (h : (d.keys ++ l).Nodup) :
    (l.foldl (fun d k => d.set k v) d).keys = d.keys ++ l := by
  induction l generalizing d with
  | nil => simp
  | cons k l ih =>
    have hk : k ∉ d.keys := fun hk => (List.nodup_append.1 h).2.2 hk (List.mem_cons_self k l)
    have hs : (d.set k v).keys = d.keys ++ [k] := by rw [keys_set, if_neg hk]
    rw [List.foldl_cons, ih _ (by simpa [hs] using h), hs, List.append_assoc, List.singleton_append]

end PyDict

end RqtJtc
