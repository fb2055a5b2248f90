/-
Reading from an in-memory file.  The file is the list of the bytes still to be
read, and a read yields what it takes and what is left.
-/

import DpktNg.Python.Bytes

namespace DpktNg

/-- `f.read(count)`; a negative count reads everything. -/
def readFile (file : Bytes) (count : Int) : Bytes × Bytes :=
  if count < 0 then (file, [])
  else (file.take count.toNat, file.drop count.toNat)

/-- `f.readline()`: up to the next line feed, which belongs to the line. -/
def readline : Bytes → Bytes × Bytes
  | [] => ([], [])
  | byte :: rest =>
      if byte = 0x0a then ([byte], rest)
      else (byte :: (readline rest).1, (readline rest).2)

theorem readline_append (file : Bytes) :
    (readline file).1 ++ (readline file).2 = file := by
  induction file with
  | nil => rfl
  | cons byte rest ih =>
      unfold readline
      split
      · rfl
      · rw [List.cons_append, ih]

theorem readline_length (file : Bytes) :
    (readline file).1.length + (readline file).2.length = file.length := by
  rw [← List.length_append, readline_append]

theorem drop_readline (file : Bytes) :
    file.drop (readline file).1.length = (readline file).2 := by
  have whole := congrArg (List.drop (readline file).1.length)
    (readline_append file)
  rw [List.drop_left] at whole
  exact whole.symm

theorem readline_lineFeed {line : Bytes} (single : 0x0a ∉ line)
    (behind : Bytes) :
    readline (line ++ 0x0a :: behind) = (line ++ [0x0a], behind) := by
  induction line with
  | nil => rfl
  | cons byte rest ih =>
      rw [List.mem_cons, not_or] at single
      rw [List.cons_append, readline, if_neg (fun same => single.1 same.symm),
        ih single.2, List.cons_append]

theorem readline_inner {file : Bytes} {front : Bytes} {last : UInt8}
    (line : (readline file).1 = front ++ [last]) : 0x0a ∉ front := by
  induction file generalizing front with
  | nil =>
      have length := congrArg List.length line
      rw [List.length_append] at length
      simp [readline] at length
  | cons byte rest ih =>
      unfold readline at line
      split at line
      · have empty : front = [] := by
          have length := congrArg List.length line
          rw [List.length_append, List.length_singleton,
            List.length_singleton] at length
          exact List.eq_nil_of_length_eq_zero (by omega)
        rw [empty]
        exact List.not_mem_nil
      · rename_i other
        cases front with
        | nil => exact List.not_mem_nil
        | cons head tail =>
            obtain ⟨same, inner⟩ := List.cons_eq_cons.mp line
            rw [List.mem_cons, not_or]
            refine ⟨?_, ih inner⟩
            rw [← same]
            exact fun here => other here.symm

theorem readFile_append (file : Bytes) (count : Int) :
    (readFile file count).1 ++ (readFile file count).2 = file := by
  unfold readFile
  split
  · exact List.append_nil file
  · exact List.take_append_drop _ _

theorem readFile_length_le (file : Bytes) (count : Int) :
    (readFile file count).2.length ≤ file.length := by
  have whole := congrArg List.length (readFile_append file count)
  rw [List.length_append] at whole
  omega

theorem readFile_front {front : Bytes} {count : Int}
    (length : (front.length : Int) = count) (behind : Bytes) :
    readFile (front ++ behind) count = (front, behind) := by
  unfold readFile
  rw [if_neg (by omega), ← length, Int.toNat_natCast, List.take_left,
    List.drop_left]

end DpktNg
