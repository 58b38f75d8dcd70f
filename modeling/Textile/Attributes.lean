/-!
# Attributes

The attributes of an element: values under distinct names, in the order in which the names were
first given.
-/

namespace Textile

/-- Values under distinct names, in the order of the names' first appearance. -/
structure Attributes where
  entries : List (String × String)
  distinct : (entries.map Prod.fst).Nodup
  deriving DecidableEq

namespace Attributes

/-- No attributes. -/
def empty : Attributes := ⟨[], List.nodup_nil⟩

instance : Inhabited Attributes := ⟨empty⟩

/-- The value under a name. -/
def get? (attributes : Attributes) (name : String) : Option String :=
  attributes.entries.lookup name

/-- The value under a name, or the empty text. -/
def getD (attributes : Attributes) (name : String) : String :=
  (attributes.get? name).getD ""

/-- Whether there is a value under a name. -/
def contains (attributes : Attributes) (name : String) : Bool :=
  attributes.entries.any (·.1 == name)

/-- Puts a value under a name: in place of the present one, or else at the end. -/
def put (entries : List (String × String)) (name value : String) : List (String × String) :=
  match entries with
  | [] => [(name, value)]
  | (other, present) :: rest =>
    if other = name then (name, value) :: rest else (other, present) :: put rest name value

theorem mem_names_put {entries : List (String × String)} {name value other : String} :
    other ∈ (put entries name value).map Prod.fst ↔
      other = name ∨ other ∈ entries.map Prod.fst := by
  induction entries with
  | nil => simp [put]
  | cons entry rest ih =>
    obtain ⟨key, present⟩ := entry
    by_cases h : key = name
    · subst h; simp [put]
    · simp only [put, h, if_false, List.map_cons, List.mem_cons, ih]
      exact or_left_comm

theorem nodup_put {entries : List (String × String)} (h : (entries.map Prod.fst).Nodup)
    (name value : String) : ((put entries name value).map Prod.fst).Nodup := by
  induction entries with
  | nil => simp [put]
  | cons entry rest ih =>
    obtain ⟨key, present⟩ := entry
    rw [List.map_cons, List.nodup_cons] at h
    by_cases hkey : key = name
    · subst hkey; simpa [put] using h
    · rw [put, if_neg hkey, List.map_cons, List.nodup_cons, mem_names_put]
      exact ⟨fun hmem => hmem.elim hkey h.1, ih h.2⟩

/-- The attributes with a value put under a name. -/
def insert (attributes : Attributes) (name value : String) : Attributes :=
  ⟨put attributes.entries name value, nodup_put attributes.distinct name value⟩

/-- The attributes of a list of names and values: a name that is repeated keeps its first place and
takes its last value. -/
def ofList (entries : List (String × String)) : Attributes :=
  entries.foldl (fun attributes (name, value) => attributes.insert name value) empty

end Attributes

end Textile
