import MountHub.Json.Tree
import MountHub.Json.Value
import Mathlib.Data.List.Basic

/-! Strings of JSON. What is escaped when a text is written is undone when it is read, for every
text, so that an object with one text in it reads back as that object. -/
namespace MountHub.Json.Tree
open Text (digit?)

theorem digit?_digitChar {n : Nat} (small : n < 16) : digit? (Nat.digitChar n) = some n := by
  have all : ∀ n < 16, digit? (Nat.digitChar n) = some n := by decide
  exact all n small

theorem hexUnit?_digitChar {code : Nat} (control : code < 0x20) :
    hexUnit? '0' '0' (Nat.digitChar (code / 16)) (Nat.digitChar (code % 16)) = some code := by
  have zero : digit? '0' = some 0 := by decide
  have high := digit?_digitChar (show code / 16 < 16 by omega)
  have low := digit?_digitChar (show code % 16 < 16 by omega)
  have sum : ((0 * 16 + 0) * 16 + code / 16) * 16 + code % 16 = code := by omega
  simp only [hexUnit?,zero,high,low,Option.bind_eq_bind,Option.bind_some,Option.pure_def,sum]

/-- A character that is not escaped stands for itself. -/
theorem steps_plain {c : Char} (quote : c ≠ '"') (slash : c ≠ '\\') (shown : ¬ c.toNat < 0x20)
    (rest : List Char) :
    steps (c :: rest) = (steps rest).bind fun read => some (.char c :: read.1,read.2) := by
  rw [steps.eq_def]
  split
  · rename_i empty
    cases empty
  · rename_i same
    exact absurd (List.cons.inj same).1 quote
  · rename_i same
    exact absurd (List.cons.inj same).1 slash
  · rename_i same
    exact absurd (List.cons.inj same).1 slash
  · rename_i same
    obtain ⟨rfl,rfl⟩ := List.cons.inj same
    simp only [if_neg shown]
    rfl

/-- A character is written so that it is read in one step: as itself, or by its code, which is
that of a control. -/
theorem steps_escaped {c : Char} {tail rest : List Char} {read : List Step}
    (next : steps tail = some (read,rest)) :
    ∃ step, steps (escaped c ++ tail) = some (step :: read,rest) ∧
      (step = .char c ∨ step = .unit c.toNat ∧ c.toNat < 0x20) := by
  by_cases short : c ∈ ['"','\\','\x08','\t','\n','\x0c','\r']
  · refine ⟨.char c,?_,.inl rfl⟩
    simp only [List.mem_cons,List.not_mem_nil,or_false] at short
    rcases short with rfl | rfl | rfl | rfl | rfl | rfl | rfl
    all_goals simp [escaped,steps,escape?,next]
  · simp only [List.mem_cons,List.not_mem_nil,or_false,not_or] at short
    obtain ⟨quote,slash,back,tab,line,feed,turn⟩ := short
    by_cases control : c.toNat < 0x20
    · refine ⟨.unit c.toNat,?_,.inr ⟨rfl,control⟩⟩
      have code := hexUnit?_digitChar control
      simp [escaped,quote,slash,back,tab,line,feed,turn,control,steps,code,next]
    · refine ⟨.char c,?_,.inl rfl⟩
      simp only [escaped,quote,slash,back,tab,line,feed,turn,control,if_false,
        List.singleton_append]
      rw [steps_plain quote slash control,next]
      rfl

/-- The code of a control is no half of a surrogate pair, so what follows is spelled by itself. -/
theorem spell_control {c : Char} (control : c.toNat < 0x20) (read : List Step) :
    spell (.unit c.toNat :: read) = (spell read).map (c :: ·) := by
  have high : isHighSurrogate c.toNat = false :=
    Bool.and_eq_false_iff.mpr (.inl (decide_eq_false (by omega)))
  have low : isLowSurrogate c.toNat = false :=
    Bool.and_eq_false_iff.mpr (.inl (decide_eq_false (by omega)))
  cases read with
  | nil => simp [spell,high,low]
  | cons step more => cases step <;> simp [spell,high,low]

/-- Behind its first quote, a string that has been written is read up to its last quote, and
spells the text. -/
theorem steps_flatMap_escaped (cs rest : List Char) :
    ∃ read, steps (cs.flatMap escaped ++ '"' :: rest) = some (read,rest) ∧
      spell read = some cs := by
  induction cs with
  | nil => exact ⟨[],by simp [steps],rfl⟩
  | cons c more ih =>
    obtain ⟨read,next,spelled⟩ := ih
    obtain ⟨step,found,same⟩ := steps_escaped (c := c) next
    refine ⟨step :: read,?_,?_⟩
    · rw [List.flatMap_cons,List.append_assoc]
      exact found
    · rcases same with rfl | ⟨rfl,control⟩
      · simp [spell,spelled]
      · simp [spell_control control,spelled]

theorem value?_quotedText (text : String) (fuel : Nat) (rest : List Char) :
    value? (fuel + 1) (quotedText text ++ rest) = some (.string (some text.toList),rest) := by
  obtain ⟨read,next,spelled⟩ := steps_flatMap_escaped text.toList rest
  simp [quotedText,value?,skipSpace,isSpace,next,spelled]

theorem skipSpace_cons {c : Char} (solid : isSpace c = false) (rest : List Char) :
    skipSpace (c :: rest) = c :: rest := by
  simp [skipSpace,solid]

theorem members?_quotedText (name text : String) (fuel : Nat) (rest : List Char) :
    members? (fuel + 2) (quotedText name ++ ':' :: (quotedText text ++ '}' :: rest)) =
      some ([(some name.toList,.string (some text.toList))],rest) := by
  obtain ⟨read,next,spelled⟩ :=
    steps_flatMap_escaped name.toList (':' :: (quotedText text ++ '}' :: rest))
  have start : quotedText name ++ ':' :: (quotedText text ++ '}' :: rest) =
      '"' :: (name.toList.flatMap escaped ++ '"' :: ':' :: (quotedText text ++ '}' :: rest)) := by
    simp [quotedText]
  have value := value?_quotedText text fuel ('}' :: rest)
  rw [start,members?,skipSpace_cons (by decide)]
  simp only [next,Option.bind_eq_bind,Option.bind_some,skipSpace_cons (c := ':') (by decide),value,
    skipSpace_cons (c := '}') (by decide),spelled]
  rfl

theorem ofChars?_field (name text : String) :
    ofChars? (Value.object [(name,.string text)]).chars =
      some (.object [(some name.toList,.string (some text.toList))]) := by
  have shape : (Value.object [(name,.string text)]).chars =
      '{' :: (quotedText name ++ ':' :: (quotedText text ++ '}' :: [])) := by
    simp [Value.chars,fieldsChars]
  have members (fuel : Nat) := members?_quotedText name text fuel []
  obtain ⟨after,start⟩ : ∃ after, quotedText name ++ ':' :: (quotedText text ++ '}' :: []) =
      '"' :: after := ⟨_,rfl⟩
  rw [shape,ofChars?,List.length_cons,value?,skipSpace_cons (by decide)]
  simp only [start,skipSpace_cons (c := '"') (by decide),Option.bind_eq_bind]
  rw [start] at members
  simp [Nat.mul_add,members,skipSpace]

end MountHub.Json.Tree
