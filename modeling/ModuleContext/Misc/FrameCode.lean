import Mathlib.Data.List.Basic

/-!
# Streams of frames

A frame code says how long the frame at the front of a buffer is, once the buffer holds all of
it. A stream is cut into its frames from the front; how the stream arrives, and how many frames
are taken at a time, makes no difference to the frames and to what is left.
-/

namespace ModuleContext.Misc

universe u

/-- The length of the frame at the front of a buffer, which does not depend on what follows. -/
structure FrameCode (α : Type u) where
  front : List α → Option Nat
  pos : ∀ {buffer n}, front buffer = some n → 0 < n
  le : ∀ {buffer n}, front buffer = some n → n ≤ buffer.length
  stable : ∀ {buffer n}, front buffer = some n → ∀ more, front (buffer ++ more) = some n

namespace FrameCode

variable {α : Type u} (code : FrameCode α)

/-- `frames` are at the front of the buffer, and `rest` follows them. -/
inductive Parses : List α → List (List α) → List α → Prop where
  | nil (buffer : List α) : Parses buffer [] buffer
  | cons {buffer rest : List α} {frames : List (List α)} {n : Nat} :
      code.front buffer = some n → Parses (buffer.drop n) frames rest →
      Parses buffer (buffer.take n :: frames) rest

/-- At most `fuel` frames from the front of a buffer, and what follows them. -/
def cutFrom : Nat → List α → List (List α) × List α
  | 0, buffer => ([], buffer)
  | fuel + 1, buffer =>
      match code.front buffer with
      | none => ([], buffer)
      | some n =>
          let remaining := cutFrom fuel (buffer.drop n)
          (buffer.take n :: remaining.1, remaining.2)

/-- All frames at the front of a buffer, and what follows them. -/
def cut (buffer : List α) : List (List α) × List α := code.cutFrom buffer.length buffer

variable {code} {buffer rest middle more : List α} {frames later : List (List α)}

theorem Parses.trans (first : code.Parses buffer frames middle)
    (second : code.Parses middle later rest) : code.Parses buffer (frames ++ later) rest := by
  induction first with
  | nil => exact second
  | cons front _ ih => exact .cons front (ih second)

/-- What arrives later does not change the frames that are there already. -/
theorem Parses.append (parses : code.Parses buffer frames rest) (more : List α) :
    code.Parses (buffer ++ more) frames (rest ++ more) := by
  induction parses with
  | nil => exact .nil _
  | @cons buffer rest frames n front _ ih =>
    have inside := code.le front
    rw [← @List.take_append_of_le_length _ _ more _ inside]
    refine .cons (code.stable front more) ?_
    rwa [List.drop_append_of_le_length inside]

/-- The frames and what is left of a buffer are determined by the buffer. -/
theorem Parses.unique {rest' : List α} {frames' : List (List α)}
    (parses : code.Parses buffer frames rest) (done : code.front rest = none)
    (parses' : code.Parses buffer frames' rest') (done' : code.front rest' = none) :
    frames = frames' ∧ rest = rest' := by
  induction parses generalizing frames' with
  | nil buffer =>
    cases parses' with
    | nil => exact ⟨rfl, rfl⟩
    | cons front _ => rw [done] at front; cases front
  | cons front _ ih =>
    cases parses' with
    | nil => rw [done'] at front; cases front
    | cons front' parses' =>
      rw [front, Option.some.injEq] at front'
      subst front'
      obtain ⟨same, left⟩ := ih done parses'
      exact ⟨congrArg _ same, left⟩

theorem front_nil : code.front [] = none := by
  cases front : code.front [] with
  | none => rfl
  | some n => exact absurd (code.le front) (Nat.not_le_of_lt (code.pos front))

theorem cutFrom_spec {fuel : Nat} (enough : buffer.length ≤ fuel) :
    code.Parses buffer (code.cutFrom fuel buffer).1 (code.cutFrom fuel buffer).2 ∧
      code.front (code.cutFrom fuel buffer).2 = none := by
  induction fuel generalizing buffer with
  | zero =>
    rw [List.length_eq_zero_iff.mp (Nat.le_zero.mp enough)]
    exact ⟨.nil [], front_nil⟩
  | succ fuel ih =>
    cases front : code.front buffer with
    | none =>
      simp only [cutFrom, front]
      exact ⟨.nil buffer, trivial⟩
    | some n =>
      have shorter : (buffer.drop n).length ≤ fuel := by
        have positive := code.pos front
        rw [List.length_drop]
        omega
      simp only [cutFrom, front]
      exact ⟨.cons front (ih shorter).1, (ih shorter).2⟩

theorem cut_parses (code : FrameCode α) (buffer : List α) :
    code.Parses buffer (code.cut buffer).1 (code.cut buffer).2 ∧
      code.front (code.cut buffer).2 = none :=
  cutFrom_spec (Nat.le_refl _)

end FrameCode

end ModuleContext.Misc
