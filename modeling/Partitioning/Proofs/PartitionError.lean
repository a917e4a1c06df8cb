import Partitioning.PartitionError

/-!
# Messages of declaration errors

A message opens with the words of its kind, goes on with the texts of what was refused and may close
with the bound that was missed.
-/

namespace Partitioning.PartitionError

/-- The words that the messages of a kind of errors open with. -/
def opening : PartitionError → String
  | malformed _ => "Invalid partition field declaration: "
  | bucketCount _ => "Invalid number of buckets: "
  | truncateWidth _ => "Invalid truncate width: "
  | unresolvedColumn _ => "Cannot find source column: "
  | missingSource _ => "Cannot find source column with id "
  | containerSource _ => "Cannot partition by non-primitive source field: "
  | unbucketable _ => "Cannot bucket by type: "
  | untruncatable _ => "Cannot truncate type: "
  | unsupportedSource _ _ => "Cannot partition type "
  | reservedFirstId _ => "Invalid first partition field id: "
  | idsExhausted => "Cannot assign partition field id: ids exhausted"

/-- The texts of what was refused, in the order of the message. -/
def subjects : PartitionError → List String
  | malformed text | unresolvedColumn text => [text]
  | bucketCount n | truncateWidth n => [toString n]
  | missingSource id | reservedFirstId id => [toString id.toInt]
  | containerSource source | unbucketable source | untruncatable source => [source.text]
  | unsupportedSource source t => [source.text, t.text]
  | idsExhausted => []

/-- The bound that was missed. -/
def closing : PartitionError → String
  | bucketCount _ | truncateWidth _ => " (must be > 0)"
  | reservedFirstId _ => " (must be >= 1000)"
  | _ => ""

/-- Every message is the opening of its kind, the texts of what was refused and the bound. -/
theorem message_eq (e : PartitionError) :
    e.message = e.opening ++ " by ".intercalate e.subjects ++ e.closing := by
  have hbounded (words text bound : String) :
      words ++ text ++ bound = words ++ " by ".intercalate [text] ++ bound := by
    rw [String.intercalate_singleton]
  have hopen (words text : String) : words ++ text = words ++ " by ".intercalate [text] ++ "" := by
    rw [← hbounded, String.append_empty]
  cases e with
  | malformed text | unresolvedColumn text => exact hopen _ text
  | bucketCount n | truncateWidth n => exact hbounded _ (toString n) _
  | missingSource id => exact hopen _ (toString id.toInt)
  | containerSource source | unbucketable source | untruncatable source => exact hopen _ source.text
  | unsupportedSource source t =>
      have htwo : " by ".intercalate [source.text, t.text] = source.text ++ " by " ++ t.text := by
        rw [String.intercalate_cons_cons, String.intercalate_singleton]
      calc (unsupportedSource source t).message
        _ = "Cannot partition type " ++ source.text ++ " by " ++ t.text := rfl
        _ = "Cannot partition type " ++ " by ".intercalate [source.text, t.text] ++ "" := by
          rw [htwo, String.append_empty, String.append_assoc, String.append_assoc,
            String.append_assoc]
  | reservedFirstId id =>
      have hbound : toString firstPartitionId.toInt = "1000" := by cbv
      calc (reservedFirstId id).message
        _ = "Invalid first partition field id: " ++ toString id.toInt ++ " (must be >= " ++
              toString firstPartitionId.toInt ++ ")" := rfl
        _ = "Invalid first partition field id: " ++ toString id.toInt ++ " (must be >= 1000)" := by
          simp only [hbound, String.append_assoc]
          rfl
        _ = _ := hbounded _ _ _
  | idsExhausted => rfl

end Partitioning.PartitionError
