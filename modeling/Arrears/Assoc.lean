/-! Insertion-ordered maps as lists of pairs. A key keeps the place where it was first put and the
value that was put last. -/

set_option autoImplicit false

namespace Arrears.Assoc

variable {κ α : Type} [DecidableEq κ]

def get? (key : κ) : List (κ × α) → Option α
  | [] => none
  | (k, value) :: rest => if k = key then some value else get? key rest

/-- Changes the value of a key, which may have none yet. -/
def alter (key : κ) (change : Option α → α) : List (κ × α) → List (κ × α)
  | [] => [(key, change none)]
  | (k, value) :: rest =>
    if k = key then (k, change (some value)) :: rest else (k, value) :: alter key change rest

def put (key : κ) (value : α) (pairs : List (κ × α)) : List (κ × α) :=
  alter key (fun _ => value) pairs

def ofPairs (pairs : List (κ × α)) : List (κ × α) :=
  pairs.foldl (fun map pair => put pair.1 pair.2 map) []

def keys (pairs : List (κ × α)) : List κ := pairs.map (·.1)

theorem get?_alter (key other : κ) (change : Option α → α) (pairs : List (κ × α)) :
    get? other (alter key change pairs) =
      if other = key then some (change (get? key pairs)) else get? other pairs := by
  induction pairs with
  | nil => by_cases same : other = key <;> simp_all [alter, get?, eq_comm]
  | cons pair rest ih =>
    obtain ⟨k, value⟩ := pair
    by_cases found : k = key <;> by_cases same : other = key <;> grind [alter, get?]

theorem get?_put (key other : κ) (value : α) (pairs : List (κ × α)) :
    get? other (put key value pairs) = if other = key then some value else get? other pairs :=
  get?_alter key other _ pairs

theorem keys_alter (key : κ) (change : Option α → α) (pairs : List (κ × α)) :
    keys (alter key change pairs) = if key ∈ keys pairs then keys pairs else keys pairs ++ [key] := by
  induction pairs with
  | nil => simp [alter, keys]
  | cons pair rest ih =>
    obtain ⟨k, value⟩ := pair
    by_cases found : k = key
    · simp [alter, keys, found]
    · have other : ¬key = k := fun same => found same.symm
      simp only [keys] at ih
      by_cases mem : key ∈ rest.map (·.1) <;> simp_all [alter, keys]

theorem nodup_keys_alter {pairs : List (κ × α)} (once : (keys pairs).Nodup) (key : κ)
    (change : Option α → α) : (keys (alter key change pairs)).Nodup := by
  rw [keys_alter]
  split
  next => exact once
  next new =>
    refine List.nodup_append.2 ⟨once, List.pairwise_singleton _ _, ?_⟩
    rintro other member _ same rfl
    cases List.mem_singleton.1 same
    exact new member

theorem eq_map_keys {pairs : List (κ × α)} (once : (keys pairs).Nodup) (absent : α) :
    pairs = (keys pairs).map fun key => (key, (get? key pairs).getD absent) := by
  induction pairs with
  | nil => rfl
  | cons pair rest ih =>
    obtain ⟨key, value⟩ := pair
    obtain ⟨new, once⟩ := List.nodup_cons.1 once
    have others : (keys rest).map (fun other => (other, (get? other ((key, value) :: rest)).getD absent)) =
        (keys rest).map fun other => (other, (get? other rest).getD absent) := by
      apply List.map_congr_left
      intro other member
      have different : key ≠ other := fun same => new (same ▸ member)
      simp [get?, different]
    have keyed : keys ((key, value) :: rest) = key :: keys rest := rfl
    rw [keyed, List.map_cons, others, ← ih once]
    simp [get?]

theorem mem_of_get? {key : κ} {value : α} {pairs : List (κ × α)} (found : get? key pairs = some value) :
    (key, value) ∈ pairs := by
  induction pairs with
  | nil => cases found
  | cons pair pairs ih =>
    obtain ⟨other, held⟩ := pair
    unfold get? at found
    split at found
    next same => cases found; cases same; exact List.mem_cons_self
    next => exact List.mem_cons_of_mem _ (ih found)

theorem exists_get? {key : κ} {pairs : List (κ × α)} (among : key ∈ keys pairs) :
    ∃ value, get? key pairs = some value := by
  induction pairs with
  | nil => cases among
  | cons pair pairs ih =>
    obtain ⟨other, held⟩ := pair
    by_cases same : other = key
    · exact ⟨held, by simp [get?, same]⟩
    · have later : key ∈ keys pairs := by simpa [keys, Ne.symm same] using among
      simpa [get?, same] using ih later

theorem get?_of_mem {key : κ} {value : α} {pairs : List (κ × α)} (once : (keys pairs).Nodup)
    (member : (key, value) ∈ pairs) : get? key pairs = some value := by
  induction pairs with
  | nil => cases member
  | cons pair pairs ih =>
    obtain ⟨other, held⟩ := pair
    obtain ⟨new, once⟩ := List.nodup_cons.1 once
    rcases List.mem_cons.1 member with same | later
    · cases same
      simp [get?]
    · have different : other ≠ key := fun same =>
        new (List.mem_map.2 ⟨(key, value), later, same.symm⟩)
      simpa [get?, different] using ih once later

theorem put_new {key : κ} {pairs : List (κ × α)} (new : key ∉ keys pairs) (value : α) :
    put key value pairs = pairs ++ [(key, value)] := by
  unfold put
  induction pairs with
  | nil => rfl
  | cons pair rest ih =>
    obtain ⟨k, held⟩ := pair
    obtain ⟨other, later⟩ := not_or.1 (mt List.mem_cons.2 new)
    rw [alter, if_neg (Ne.symm other), ih later, List.cons_append]

theorem ofPairs_of_nodup {pairs : List (κ × α)} (once : (keys pairs).Nodup) : ofPairs pairs = pairs := by
  -- what is put so far stands in front, and its keys do not come again
  have behind : ∀ done, (keys (done ++ pairs)).Nodup →
      pairs.foldl (fun map pair => put pair.1 pair.2 map) done = done ++ pairs := by
    clear once
    induction pairs with
    | nil => exact fun done _ => (List.append_nil done).symm
    | cons pair rest ih =>
      intro done once
      have new : pair.1 ∉ keys done := by
        intro among
        rw [keys, List.map_append, List.nodup_append] at once
        exact once.2.2 pair.1 among pair.1 List.mem_cons_self rfl
      have again := ih (done ++ [pair]) (by rw [List.append_assoc]; exact once)
      rw [List.foldl_cons, put_new new, again, List.append_assoc]
      rfl
  exact behind [] once

theorem nodup_keys_ofPairs (pairs : List (κ × α)) : (keys (ofPairs pairs)).Nodup := by
  have kept (held : List (κ × α)) (once : (keys held).Nodup) :
      (keys (pairs.foldl (fun map pair => put pair.1 pair.2 map) held)).Nodup := by
    induction pairs generalizing held with
    | nil => exact once
    | cons pair pairs ih => exact ih _ (nodup_keys_alter once pair.1 _)
  exact kept [] List.nodup_nil

theorem get?_append (key : κ) (front back : List (κ × α)) :
    get? key (front ++ back) = (get? key front).or (get? key back) := by
  induction front with
  | nil => rfl
  | cons pair front ih =>
    obtain ⟨other, value⟩ := pair
    by_cases same : other = key
    · simp [get?, same]
    · simp [get?, same, ih]

def last? (key : κ) (pairs : List (κ × α)) : Option α := get? key pairs.reverse

theorem last?_cons (key : κ) (pair : κ × α) (pairs : List (κ × α)) :
    last? key (pair :: pairs) = (last? key pairs).or (get? key [pair]) := by
  rw [last?, List.reverse_cons, get?_append, last?]

/-- Pairs that are put into a map count over what it held. -/
theorem get?_foldl_put (key : κ) (pairs held : List (κ × α)) :
    get? key (pairs.foldl (fun map pair => put pair.1 pair.2 map) held) =
      (last? key pairs).or (get? key held) := by
  induction pairs generalizing held with
  | nil => rfl
  | cons pair pairs ih =>
    rw [List.foldl_cons, ih, last?_cons, get?_put, Option.or_assoc]
    by_cases same : key = pair.1 <;> simp [get?, same, eq_comm]

theorem get?_ofPairs (key : κ) (pairs : List (κ × α)) : get? key (ofPairs pairs) = last? key pairs := by
  rw [ofPairs, get?_foldl_put]
  exact Option.or_none

end Arrears.Assoc
