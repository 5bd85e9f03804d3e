import Mathlib.Data.List.Basic
import Mathlib.Data.String.Basic

/-!
# The keys of the persistence

`makePersistenceKey` and `parsePersistenceKey` of `DataService.cpp`. A key is the
device key and the reference with a delimiter between them.
-/

namespace WolkConnect

/-- `PERSISTENCE_KEY_DELIMITER`. -/
def persistenceKeyDelimiter : Char := '+'

def makePersistenceKey (deviceKey reference : String) : String :=
  deviceKey.push persistenceKeyDelimiter ++ reference

def parsePersistenceKey (key : String) : String × String :=
  match key.toList.idxOf? persistenceKeyDelimiter with
  | none => ("", "")
  | some pos => (String.ofList (key.toList.take pos), String.ofList (key.toList.drop (pos + 1)))

/-- The text has no delimiter in it. -/
def Plain (text : String) : Prop := persistenceKeyDelimiter ∉ text.toList

instance (text : String) : Decidable (Plain text) :=
  inferInstanceAs (Decidable (persistenceKeyDelimiter ∉ text.toList))

/-- The device key that a key of the persistence is decoded to. -/
def deviceOf (key : String) : String := (parsePersistenceKey key).1

theorem toList_makePersistenceKey (d r : String) :
    (makePersistenceKey d r).toList = d.toList ++ persistenceKeyDelimiter :: r.toList := by
  simp [makePersistenceKey]

/-- A list that starts with no `c` and goes on with one has its first `c` there. -/
theorem idxOf?_append_cons {c : Char} {l r : List Char} (h : c ∉ l) :
    (l ++ c :: r).idxOf? c = some l.length := by
  rw [List.idxOf?_eq_some_iff]
  refine ⟨by simp, by simp, ?_⟩
  intro j hj heq
  rw [List.getElem_append_left hj] at heq
  exact h (heq ▸ List.getElem_mem hj)

theorem parse_make {d : String} (r : String) (h : Plain d) :
    parsePersistenceKey (makePersistenceKey d r) = (d, r) := by
  have hdrop : (d.toList ++ persistenceKeyDelimiter :: r.toList).drop (d.toList.length + 1) =
      r.toList := by
    rw [← List.drop_drop, List.drop_left]
    rfl
  unfold parsePersistenceKey
  rw [toList_makePersistenceKey, idxOf?_append_cons h]
  simp only [List.take_left, hdrop, String.ofList_toList]

/-- What is decoded has no delimiter in its device key. -/
theorem plain_deviceOf (key : String) : Plain (deviceOf key) := by
  unfold deviceOf parsePersistenceKey
  split
  · simp [Plain]
  · rename_i pos hpos
    obtain ⟨hlt, -, hfirst⟩ := List.idxOf?_eq_some_iff.mp hpos
    intro hmem
    rw [String.toList_ofList, List.mem_take_iff_getElem] at hmem
    obtain ⟨j, hj, heq⟩ := hmem
    exact hfirst j (by omega) heq

@[simp] theorem deviceOf_make {d : String} (r : String) (h : Plain d) :
    deviceOf (makePersistenceKey d r) = d := by
  rw [deviceOf, parse_make r h]

theorem make_inj {d d' r r' : String} (h : Plain d) (h' : Plain d')
    (heq : makePersistenceKey d r = makePersistenceKey d' r') : d = d' ∧ r = r' := by
  have hparse := parse_make r h
  rw [heq, parse_make r' h'] at hparse
  exact ⟨(congrArg Prod.fst hparse).symm, (congrArg Prod.snd hparse).symm⟩

/-- The round trip cuts the device key at its first delimiter. -/
theorem parse_make_iff (d r : String) :
    parsePersistenceKey (makePersistenceKey d r) = (d, r) ↔ Plain d := by
  refine ⟨fun h => ?_, parse_make r⟩
  have hdevice : deviceOf (makePersistenceKey d r) = d := congrArg Prod.fst h
  rw [← hdevice]
  exact plain_deviceOf _

end WolkConnect
