import SourceEditor.Json.Value
import Mathlib.Data.List.Nodup

/-!
# Entries of objects

The values under the keys of an object, after a value is put under a key or a key is erased, and
after the members of a document are put in one after the other.

* `Entries.get?_insert`, `Entries.get?_erase`: the value under any key, after one change.
* `Entries.get?_insertAll`: of the members with a key, the last one counts.
* `Entries.insertAll_of_nodup`: members of different keys are the entries themselves.
-/

namespace SourceEditor.Json.Entries

variable {key k : Text} {v : Value} {es ms : Entries}

/-! ## One change -/

/-- Under the key of a new entry there is its value. -/
theorem get?_insert (key k : Text) (v : Value) (es : Entries) :
    get? key (insert k v es) = if key = k then some v else get? key es := by
  induction es with
  | nil => exact if_congr eq_comm rfl rfl
  | cons e es ih =>
    obtain ⟨k', v'⟩ := e
    rw [insert]
    split
    · next h =>
      subst h
      simp only [get?, eq_comm (a := key)]
      split <;> rfl
    · next h =>
      rw [get?, ih, get?]
      split
      · next h' => rw [if_neg (fun e => h (h'.trans e))]
      · rfl

/-- Under a key that is erased there is nothing. -/
theorem get?_erase (key k : Text) (es : Entries) :
    get? key (erase k es) = if key = k then none else get? key es := by
  induction es with
  | nil => exact (ite_self none).symm
  | cons e es ih =>
    obtain ⟨k', v'⟩ := e
    by_cases hk : k' = k
    · -- The entry goes, and nobody asks for it but under its own key.
      have hgone : erase k ((k', v') :: es) = erase k es := by simp [erase, hk]
      rw [hgone, ih, get?, hk]
      split
      · rfl
      · next h => rw [if_neg (Ne.symm h)]
    · have hkept : erase k ((k', v') :: es) = (k', v') :: erase k es := by simp [erase, hk]
      rw [hkept, get?, ih, get?]
      split
      · next h => rw [if_neg (fun e => hk (h.trans e))]
      · rfl

/-- An entry with a new key comes last. -/
theorem insert_of_notMem (h : k ∉ es.keys) : es.insert k v = es ++ [(k, v)] := by
  induction es with
  | nil => rfl
  | cons e es ih =>
    rw [keys, List.map_cons, List.mem_cons, not_or] at h
    rw [insert, if_neg (Ne.symm h.1), ih h.2, List.cons_append]

/-! ## Many changes -/

/-- The entries of an object after some members more, the last one of each key. -/
def insertAll (es : Entries) (members : List (Text × Value)) : Entries :=
  members.foldl (fun es member => Entries.insert member.1 member.2 es) es

/-- Members are put in one after the other. -/
theorem insertAll_cons (es : Entries) (m : Text × Value) (ms : List (Text × Value)) :
    es.insertAll (m :: ms) = (es.insert m.1 m.2).insertAll ms := rfl

/-- Of the members with a key, the last one counts. -/
theorem get?_insertAll (key : Text) (ms : List (Text × Value)) (es : Entries) :
    get? key (insertAll es ms) =
      ((ms.reverse.find? fun member => member.1 = key).map Prod.snd).or (get? key es) := by
  induction ms generalizing es with
  | nil => rfl
  | cons m ms ih =>
    rw [insertAll_cons, ih, get?_insert, List.reverse_cons, List.find?_append]
    cases ms.reverse.find? fun member => decide (member.1 = key) with
    | some found => rfl
    | none =>
      by_cases h : m.1 = key
      · simp [h]
      · simp [h, Ne.symm h]

/-- Members of different keys are the entries of their object. -/
theorem insertAll_of_nodup (h : (keys (es ++ ms)).Nodup) : es.insertAll ms = es ++ ms := by
  induction ms generalizing es with
  | nil => exact (List.append_nil es).symm
  | cons m ms ih =>
    have hnew : m.1 ∉ es.keys := by
      rw [keys, List.map_append, List.map_cons, List.nodup_append] at h
      exact fun hmem => h.2.2 m.1 hmem m.1 List.mem_cons_self rfl
    rw [insertAll_cons, insert_of_notMem hnew, ih (by simpa using h), List.append_assoc,
      List.singleton_append]

end SourceEditor.Json.Entries
