import LeaseQueue.Text.Cluster

/-!
Text with backspaces in it, as a keyboard sends it: each takes off the cluster before it.
-/

namespace LeaseQueue.Text.Backspace

/-- What has been kept of a text, backwards, and the lengths in bytes of its clusters, the last one
first. -/
structure Kept where
  text : List Char := []
  lengths : List Nat := []

/-- The length of a cluster is held in one byte. -/
def lengthOf (cluster : List Char) : Nat :=
  (cluster.foldl (fun length c => length + c.utf8Size) 0) % 256

def shorten : (bytes : Nat) → List Char → List Char
  | 0, text => text
  | _ + 1, [] => []
  | bytes + 1, c :: rest => shorten (bytes + 1 - c.utf8Size) rest

def Kept.add (kept : Kept) (cluster : List Char) : Kept :=
  if cluster = ['\x08'] then
    match kept.lengths with
    | [] => kept
    | length :: earlier => ⟨shorten length kept.text, earlier⟩
  else ⟨cluster.reverse ++ kept.text, lengthOf cluster :: kept.lengths⟩

def apply (text : List Char) : List Char :=
  ((Cluster.split text).foldl Kept.add {}).text.reverse

theorem text_foldl_add (kept : Kept) (clusters : List (List Char))
    (plain : ['\x08'] ∉ clusters) :
    (clusters.foldl Kept.add kept).text = clusters.flatten.reverse ++ kept.text := by
  induction clusters generalizing kept with
  | nil => rfl
  | cons cluster rest ih =>
      simp only [List.mem_cons, not_or] at plain
      rw [List.foldl_cons, ih _ plain.2]
      simp [Kept.add, Ne.symm plain.1]

theorem apply_of_not_mem (text : List Char) (plain : '\x08' ∉ text) : apply text = text := by
  have kept : ['\x08'] ∉ Cluster.split text := fun found =>
    plain (Cluster.flatten_split text ▸ List.mem_flatten_of_mem found (List.mem_singleton_self _))
  rw [apply, text_foldl_add _ _ kept, Cluster.flatten_split]
  simp

end LeaseQueue.Text.Backspace
