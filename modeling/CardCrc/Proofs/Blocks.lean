/-!
# Places among blocks of one width

A message is fed as the bits of its bytes, and a trace lists the events of its
bytes. Both join blocks that are equally wide, one for each byte, so the block a
place lies in and the place within it follow from the width alone.
-/

namespace CardCrc

universe u v

variable {α : Type u} {β : Type v}

/-- The joined blocks are as long as they are many and wide. -/
theorem length_flatMap_uniform (block : α → List β) (width : Nat)
    (uniform : ∀ item, (block item).length = width) (items : List α) :
    (items.flatMap block).length = width * items.length := by
  simp only [List.length_flatMap, uniform, List.map_const', List.sum_replicate_nat, Nat.mul_comm]

/-- A slice of the joined blocks, as wide as a block and beginning where one
begins, is that block. Behind the last block there is nothing. -/
theorem slice_flatMap (block : α → List β) (width : Nat)
    (uniform : ∀ item, (block item).length = width) (items : List α) (index : Nat) :
    ((items.flatMap block).drop (width * index)).take width =
      (items[index]?.map block).getD [] := by
  induction items generalizing index with
  | nil => simp
  | cons item rest inductionHypothesis =>
    cases index with
    | zero => exact List.take_left' (uniform item)
    | succ index =>
      have later := inductionHypothesis index
      rw [List.flatMap_cons, Nat.mul_succ, Nat.add_comm, ← List.drop_drop,
        List.drop_left' (uniform item), later]
      rfl

/-- A place among the joined blocks is a place within a block. -/
theorem getElem?_flatMap (block : α → List β) (width : Nat)
    (uniform : ∀ item, (block item).length = width) (items : List α) (index place : Nat)
    (inside : place < width) :
    (items.flatMap block)[width * index + place]? =
      items[index]?.bind fun item => (block item)[place]? := by
  have slice := congrArg (·[place]?) (slice_flatMap block width uniform items index)
  simp only [List.getElem?_take, inside, if_true, List.getElem?_drop] at slice
  rw [slice]
  cases items[index]? <;> rfl

end CardCrc
