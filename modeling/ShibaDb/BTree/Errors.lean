/-
No step of a mutation reports NOT_FOUND or CONFLICT.  A put never returns these, and
a delete returns NOT_FOUND only when the key is absent.
-/
import ShibaDb.BTree.Batch

namespace ShibaDb

open Fallible

/-- A status the node codec and the page transactions do not report. -/
class Unreported (error : SdbError) : Prop where
  among : error ∈ [SdbError.notFound, .conflict, .bufferTooSmall]

/-- A status no step of a mutation reports. -/
class NeverReported (error : SdbError) : Prop extends Unreported error where
  room : ¬SdbError.bufferTooSmall = error

instance unreportedNotFound : NeverReported .notFound where
  among := by decide
  room := by decide

instance unreportedConflict : NeverReported .conflict where
  among := by decide
  room := by decide

instance unreportedBufferTooSmall : Unreported .bufferTooSmall := ⟨by decide⟩

/-- The statuses the codec and the transactions report. -/
def codecErrors : List SdbError := [.invalidArgument, .badMagic, .corrupt, .overflow, .internal]

lemma Unreported.ne_of_mem {error : SdbError} [hnever : Unreported error] {other : SdbError}
    (hother : other ∈ codecErrors) : other ≠ error := by
  rintro rfl
  have hboth : ∀ status ∈ codecErrors,
      status ∉ [SdbError.notFound, .conflict, .bufferTooSmall] := by decide
  exact hboth _ hother hnever.among

variable {pager : Pager} {key value : Bytes} {error : SdbError}

section Codec

variable [Unreported error] {kind : NodeKind} {pageId : PageId}

@[simp] lemma invalidArgument_ne_unreported : ¬SdbError.invalidArgument = error :=
  Unreported.ne_of_mem (by decide)

@[simp] lemma badMagic_ne_unreported : ¬SdbError.badMagic = error :=
  Unreported.ne_of_mem (by decide)

@[simp] lemma corrupt_ne_unreported : ¬SdbError.corrupt = error :=
  Unreported.ne_of_mem (by decide)

@[simp] lemma overflow_ne_unreported : ¬SdbError.overflow = error :=
  Unreported.ne_of_mem (by decide)

@[simp] lemma internal_ne_unreported : ¬SdbError.internal = error :=
  Unreported.ne_of_mem (by decide)

lemma checkedAddSize_ne_unreported {left right : Nat} :
    checkedAddSize left right ≠ .error error := by
  unfold checkedAddSize
  split <;> simp

lemma encodedEntriesSize_ne_unreported {previous : Option Bytes} {entries : List BTreeEntry}
    {total : Nat} : encodedEntriesSize kind previous entries total ≠ .error error := by
  induction entries generalizing previous total with
  | nil => simp [encodedEntriesSize]
  | cons entry entries ih =>
    unfold encodedEntriesSize
    split
    · simp
    · split
      · simp
      · exact except_bind_ne_error checkedAddSize_ne_unreported fun _ =>
          except_bind_ne_error checkedAddSize_ne_unreported fun _ =>
            except_bind_ne_error checkedAddSize_ne_unreported fun _ => ih

lemma btreeNodeEncodedSize_ne_unreported {node : BTreeNode} :
    btreeNodeEncodedSize node ≠ .error error := by
  unfold btreeNodeEncodedSize
  split
  · simp
  · exact encodedEntriesSize_ne_unreported

lemma decodeEntry_ne_unreported {cursor : Bytes} : decodeEntry kind cursor ≠ .error error := by
  unfold decodeEntry
  simp only
  repeat' split
  all_goals simp

lemma decodeEntries_ne_unreported {count : Nat} {cursor : Bytes} :
    decodeEntries kind count cursor ≠ .error error := by
  induction count generalizing cursor with
  | zero => simp [decodeEntries]
  | succ count ih =>
    exact except_bind_ne_error decodeEntry_ne_unreported fun _ =>
      except_bind_ne_error ih fun _ => by simp

lemma btreeNodeDecode_ne_unreported {payload : Bytes} :
    btreeNodeDecode payload ≠ .error error := by
  unfold btreeNodeDecode
  split
  · simp
  split
  · simp
  split
  · simp
  simp only
  repeat' split
  all_goals try simp
  refine except_bind_ne_error decodeEntries_ne_unreported fun _ => ?_
  repeat' split
  all_goals simp

lemma pagerRead_ne_unreported : pagerRead pager pageId ≠ .error error := by
  unfold pagerRead
  repeat' split
  all_goals simp

lemma btreeReadNode_ne_unreported : btreeReadNode pager pageId ≠ .error error := by
  refine except_bind_ne_error pagerRead_ne_unreported fun view => ?_
  split
  · simp
  · exact btreeNodeDecode_ne_unreported

lemma btreeBatchReadNode_ne_unreported {batch : BTreeBatch} :
    btreeBatchReadNode pager batch pageId ≠ .error error := by
  unfold btreeBatchReadNode
  split
  · exact btreeNodeDecode_ne_unreported
  · exact btreeReadNode_ne_unreported

end Codec

section Transaction

variable {pageId : PageId}

lemma onTxn_avoids {α : Type} {step : TxnM α} (hstep : Avoids error step) :
    Avoids error (onTxn step) := fun batch => hstep batch.txn

variable [Unreported error]

lemma txnFreelistLink_ne_unreported {txn : Txn} :
    txnFreelistLink pager txn pageId ≠ .error error := by
  unfold txnFreelistLink
  split
  · split <;> simp
  · refine except_bind_ne_error pagerRead_ne_unreported fun view => ?_
    repeat' split
    all_goals simp

lemma txnAllocate_avoids : Avoids error (txnAllocate pager) := by
  intro txn
  unfold txnAllocate
  simp only
  repeat' split
  all_goals try simp
  rename_i hlink
  exact fun heq => txnFreelistLink_ne_unreported (heq ▸ hlink)

lemma txnPut_avoids {page : TxnPage} : Avoids error (txnPut pager page) := by
  intro txn
  unfold txnPut
  split <;> simp

lemma txnPushFree_avoids : Avoids error (txnPushFree pager pageId) :=
  (avoids_query fun _ => by simp).bind fun _ => txnPut_avoids.bind fun _ => avoids_update _

lemma txnFree_avoids : Avoids error (txnFree pager pageId) := by
  intro txn
  unfold txnFree
  split
  · simp
  split
  · exact txnPushFree_avoids _
  split
  · rename_i hread
    exact fun heq => pagerRead_ne_unreported
      (hread.trans (congrArg Except.error (Except.error.inj heq)))
  split
  · simp
  · exact txnPushFree_avoids txn

end Transaction

section Mutation

variable {pageId link : PageId} {node : BTreeNode} {path : Path}

lemma readNodeM_avoids [Unreported error] : Avoids error (readNodeM pager pageId) :=
  avoids_query fun _ => btreeBatchReadNode_ne_unreported

variable [NeverReported error]

@[simp] lemma bufferTooSmall_ne_unreported : ¬SdbError.bufferTooSmall = error :=
  NeverReported.room

lemma btreeNodeEncode_ne_unreported {size : Nat} : btreeNodeEncode node size ≠ .error error := by
  refine except_bind_ne_error btreeNodeEncodedSize_ne_unreported fun required => ?_
  split <;> simp

lemma btreeStage_avoids : Avoids error (btreeStage pager pageId node) := by
  refine (avoids_query fun _ => btreeNodeEncodedSize_ne_unreported).bind fun size => ?_
  split
  · exact avoids_fail (by simp)
  · exact (avoids_query fun _ => btreeNodeEncode_ne_unreported).bind fun _ =>
      avoids_update _

lemma btreeSplitLeaf_avoids : Avoids error (btreeSplitLeaf pager pageId node) := by
  unfold btreeSplitLeaf
  split
  · exact avoids_fail (by simp)
  · exact (onTxn_avoids txnAllocate_avoids).bind fun _ =>
      btreeStage_avoids.bind fun _ => btreeStage_avoids.bind fun _ => avoids_pure _

lemma btreeSplitInternal_avoids : Avoids error (btreeSplitInternal pager pageId node) := by
  unfold btreeSplitInternal
  split
  · exact avoids_fail (by simp)
  · exact (onTxn_avoids txnAllocate_avoids).bind fun _ =>
      btreeStage_avoids.bind fun _ => btreeStage_avoids.bind fun _ => avoids_pure _

lemma btreeSettle_avoids : Avoids error (btreeSettle pager pageId node) := by
  refine (avoids_query fun _ => btreeNodeEncodedSize_ne_unreported).bind fun size => ?_
  split
  · exact btreeStage_avoids.bind fun _ => avoids_pure _
  split
  · exact avoids_fail (by simp)
  split
  · exact btreeSplitLeaf_avoids.bind fun _ => avoids_pure _
  · exact btreeSplitInternal_avoids.bind fun _ => avoids_pure _

lemma btreeInsertRecursive_avoids {fuel : Nat} :
    Avoids error (btreeInsertRecursive pager key value fuel pageId) := by
  induction fuel generalizing pageId with
  | zero => exact avoids_fail (by simp)
  | succ fuel ih =>
    refine readNodeM_avoids.bind fun node => ?_
    split
    · exact btreeSettle_avoids
    · refine ih.bind fun split => ?_
      split <;> exact btreeSettle_avoids

lemma btreeGrowRoot_avoids {split : BTreeSplit} : Avoids error (btreeGrowRoot pager split) := by
  refine (avoids_query fun _ => by simp).bind fun root => ?_
  refine (avoids_query fun batch => ?_).bind fun _ =>
    (onTxn_avoids txnAllocate_avoids).bind fun _ => btreeStage_avoids.bind fun _ =>
      btreeStage_avoids
  split
  · simp
  · exact btreeNodeDecode_ne_unreported

lemma btreePutBody_avoids : Avoids error (btreePutBody pager key value) := by
  refine (avoids_query fun _ => by simp).bind fun root =>
    btreeInsertRecursive_avoids.bind fun split => ?_
  split
  · exact avoids_pure _
  · exact btreeGrowRoot_avoids

lemma unstage_free_avoids (pageId : PageId) {next : BatchM PUnit} (hnext : Avoids error next) :
    Avoids error (do btreeUnstage pageId; onTxn (txnFree pager pageId); next) :=
  (avoids_update _).bind fun _ => (onTxn_avoids txnFree_avoids).bind fun _ => hnext

lemma btreeRelinkRightmost_avoids {fuel : Nat} :
    Avoids error (btreeRelinkRightmost pager link fuel pageId) := by
  induction fuel generalizing pageId with
  | zero => exact avoids_fail (by simp)
  | succ fuel ih =>
    refine readNodeM_avoids.bind fun node => ?_
    split
    · exact btreeStage_avoids
    · exact ih

lemma btreeRelinkPredecessor_avoids : Avoids error (btreeRelinkPredecessor pager link path) := by
  induction path with
  | nil => exact avoids_pure _
  | cons frame outer ih =>
    unfold btreeRelinkPredecessor
    split
    · exact ih
    · exact readNodeM_avoids.bind fun _ => btreeRelinkRightmost_avoids

lemma btreeRedistribute_avoids {parentPage leftPage rightPage : PageId}
    {parent combined : BTreeNode} {sepSlot : Nat} : Avoids error
      (btreeRedistribute pager parentPage leftPage rightPage parent combined sepSlot) := by
  unfold btreeRedistribute
  split
  · exact avoids_fail (by simp)
  · exact btreeStage_avoids.bind fun _ => btreeStage_avoids.bind fun _ =>
      btreeStage_avoids

lemma btreeReclaimInternalUp_avoids {nodePage survivorPage : PageId} :
    Avoids error (btreeReclaimInternalUp pager path nodePage survivorPage) := by
  induction path generalizing nodePage survivorPage with
  | nil => exact avoids_fail (by simp)
  | cons frame outer ih =>
    refine (avoids_query fun _ => by simp).bind fun root => ?_
    split
    · exact avoids_fail (by simp)
    refine readNodeM_avoids.bind fun parent => ?_
    split
    · exact avoids_fail (by simp)
    simp only
    split
    · exact avoids_fail (by simp)
    refine readNodeM_avoids.bind fun sibling => ?_
    split
    · exact avoids_fail (by simp)
    refine (avoids_query fun _ => btreeNodeEncodedSize_ne_unreported).bind fun size => ?_
    split
    · refine btreeStage_avoids.bind fun _ => unstage_free_avoids _ ?_
      split
      · exact (avoids_update _).bind fun _ => onTxn_avoids txnFree_avoids
      split
      · exact btreeStage_avoids
      · exact ih
    · exact btreeRedistribute_avoids

lemma btreeCollapseRoot_avoids {root childPage : PageId} :
    Avoids error (btreeCollapseRoot pager root childPage) :=
  readNodeM_avoids.bind fun _ => unstage_free_avoids childPage btreeStage_avoids

lemma btreeReclaimEmptyLeaf_avoids {leafPage : PageId} :
    Avoids error (btreeReclaimEmptyLeaf pager leafPage link path) := by
  cases path with
  | nil => exact avoids_fail (by simp)
  | cons frame outer =>
    refine (avoids_query fun _ => by simp).bind fun root =>
      btreeRelinkPredecessor_avoids.bind fun _ =>
        readNodeM_avoids.bind fun parent => ?_
    split
    · exact avoids_fail (by simp)
    refine unstage_free_avoids leafPage ?_
    split
    · exact btreeStage_avoids
    split
    · exact btreeCollapseRoot_avoids
    · exact btreeReclaimInternalUp_avoids

lemma btreeDeleteAt_avoids {leaf : BTreeNode} {position : Nat} :
    Avoids error (btreeDeleteAt pager leaf pageId path position) := by
  refine btreeStage_avoids.bind fun _ => (avoids_query fun _ => by simp).bind fun root =>
    (avoids_query fun _ => by simp).bind fun allocated => ?_
  split
  · refine readNodeM_avoids.bind fun check => ?_
    split
    · exact btreeReclaimEmptyLeaf_avoids
    · exact avoids_pure _
  · exact avoids_pure _

omit [NeverReported error] in
lemma poisonOnError_ne_unreported {body : BatchM PUnit} {batch : BTreeBatch}
    (hbody : (body batch).1 ≠ .error error) : (poisonOnError body batch).1 ≠ .error error := by
  rw [poisonOnError]
  rcases hrun : body batch with ⟨other | result, after⟩
  · rwa [hrun] at hbody
  · simp

end Mutation

end ShibaDb
