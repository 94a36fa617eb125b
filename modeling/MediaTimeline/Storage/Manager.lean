import MediaTimeline.Storage.Backend

/-! The backends a service knows, by storage id. -/

namespace MediaTimeline.Storage

/-- Backends by id, and the id of the default one, empty when there is none. -/
structure BackendManager where
  backends : List (String × Backend) := []
  defaultId : String := ""
deriving Inhabited

namespace BackendManager

def get (m : BackendManager) (id : String) : Option Backend := m.backends.lookup id

/-- Holds `b` under `id`, in place of any backend held there; with no default
yet, `id` becomes the default. -/
def put (m : BackendManager) (id : String) (b : Backend) : BackendManager :=
  { backends := (m.backends.filter (·.1 != id)) ++ [(id, b)]
    defaultId := if m.defaultId.isEmpty then id else m.defaultId }

def add (m : BackendManager) (id : String) (c : BackendSettings) : Except String BackendManager :=
  match Backend.create c with
  | .ok b => .ok (m.put id b)
  | .error e => .error ("create backend " ++ id ++ ": " ++ e)

def defaultBackend (m : BackendManager) : String × Option Backend := (m.defaultId, m.get m.defaultId)

def remove (m : BackendManager) (id : String) : BackendManager :=
  { backends := m.backends.filter (·.1 != id)
    defaultId := if m.defaultId == id then "" else m.defaultId }

def ids (m : BackendManager) : List String :=
  (m.backends.map (·.1)).mergeSort fun a b => decide (a ≤ b)

def close (_ : BackendManager) : BackendManager := {}

/-- No entry is found under an id once the entries under it are filtered out. -/
theorem lookup_filter_ne (bs : List (String × Backend)) (id : String) :
    (bs.filter (·.1 != id)).lookup id = none := by
  induction bs with
  | nil => rfl
  | cons e es ih =>
    obtain ⟨k, b⟩ := e
    by_cases h : k = id
    · simp [h, ih]
    · have hne : (id == k) = false := beq_false_of_ne fun h' => h h'.symm
      simp [h, List.lookup_cons, ih, hne]

theorem get_put (m : BackendManager) (id : String) (b : Backend) : (m.put id b).get id = some b := by
  simp only [get, put, List.lookup_append, lookup_filter_ne]
  simp

theorem get_remove (m : BackendManager) (id : String) : (m.remove id).get id = none :=
  lookup_filter_ne m.backends id

end BackendManager

end MediaTimeline.Storage
