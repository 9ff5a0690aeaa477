import AvtTracker.Foundation.FramingRest
import AvtTracker.Tracker.FrameAgreement

/-!
# Quiescence of the frame splitter

After a push the splitter holds nothing it could extract: the boundary rule
waits on the pending bytes, or rejects them and they hold no terminator to
restart after.  This module spells out what that says about the bytes.
-/

namespace AvtTracker
namespace Tracker

open Foundation TrackerFrameSplitter

/-- No frame ends in the pending bytes: there is no terminator behind the
fixed-size fields, and none where the Length field declares the end. -/
structure NoFrameEnd (pending : Bytes) (headTokenLength : Nat) : Prop where
  behind_fixedFields : forall offset, headTokenLength + 20 ≤ offset ->
    pending[offset]? ≠ some frameTerminator
  at_declaredEnd :
    pending[headTokenLength + lengthFieldBytes +
      readUInt16BE pending headTokenLength]? ≠ some frameTerminator

/-- Pending bytes that start with a head token hold no end of its frame, and
pending bytes that cannot start with one hold no terminator at all. -/
structure NothingExtractable (pending : Bytes) : Prop where
  with_headToken : forall colonIndex, colonIndex < 8 ->
    indexOf pending colon = some colonIndex ->
      NoFrameEnd pending (colonIndex + 1)
  without_headToken : 8 ≤ pending.length ->
    (forall offset, offset < 8 -> pending[offset]? ≠ some colon) ->
      frameTerminator ∉ pending

/-!
## The boundary rule on bytes without a frame
-/

theorem resolveDeclaredLength_eq_wait_iff {buffer : Bytes}
    {headTokenLength : Nat} :
    resolveDeclaredLength buffer headTokenLength = Boundary.wait <->
      NoFrameEnd buffer headTokenLength := by
  constructor
  · intro hres
    rcases resolveDeclaredLength_verdict buffer headTokenLength with
      ⟨_, hcomplete⟩ | ⟨hmiss, ⟨_, _, hcomplete⟩ | ⟨hnone, _⟩⟩
    · rw [hres] at hcomplete
      cases hcomplete
    · rw [hres] at hcomplete
      cases hcomplete
    · exact ⟨indexOfFrom_eq_none_iff.mp hnone, hmiss⟩
  · intro h
    exact resolveDeclaredLength_of_none h.at_declaredEnd
      (indexOfFrom_eq_none_iff.mpr h.behind_fixedFields)

/-- Where a head token ends, the splitter waits exactly when no frame ends. -/
theorem resolveFrameLength_eq_wait_iff {buffer : Bytes} {colonIndex : Nat}
    (hcolon : indexOf buffer colon = some colonIndex) (hhead : colonIndex < 8) :
    resolveFrameLength buffer = Boundary.wait <->
      NoFrameEnd buffer (colonIndex + 1) := by
  rw [resolveFrameLength_of_colon hcolon hhead]
  by_cases hshort : buffer.length < colonIndex + 1 + lengthFieldBytes
  · rw [if_pos hshort]
    simp only [lengthFieldBytes] at hshort
    constructor
    · intro _
      constructor
      · intro offset hoffset hterm
        have hlt := lt_length_of_getElem?_eq_some hterm
        lia
      · intro hterm
        have hlt := lt_length_of_getElem?_eq_some hterm
        simp only [lengthFieldBytes] at hlt
        lia
    · intro _
      rfl
  · rw [if_neg hshort]
    exact resolveDeclaredLength_eq_wait_iff

theorem completesBuffered_trackerFraming :
    CompletesBuffered trackerFraming := by
  intro buffer n hres
  rw [trackerFraming_resolve] at hres
  rcases resolveFrameLength_complete hres with ⟨_, _, _, _, _, hn, _⟩
  exact hn

/-- Nothing can be extracted exactly when the extraction loop cannot advance. -/
theorem nothingExtractable_iff_settled {buffer : Bytes} :
    NothingExtractable buffer <-> Settled trackerFraming buffer := by
  rw [completesBuffered_trackerFraming.settled_iff, trackerFraming_resolve]
  constructor
  · intro h
    rcases headToken_cases buffer with
      ⟨colonIndex, hhead, hcolon⟩ | ⟨hlen, hnone⟩ | ⟨hlen, hnone⟩
    · exact Or.inl ((resolveFrameLength_eq_wait_iff hcolon hhead).mpr
        (h.with_headToken colonIndex hhead hcolon))
    · exact Or.inl (resolveFrameLength_of_short hlen hnone)
    · apply Or.inr
      constructor
      · exact resolveFrameLength_of_no_colon hlen hnone
      · exact indexOf_eq_none_iff_not_mem.mpr (h.without_headToken hlen hnone)
  · intro h
    constructor
    · intro colonIndex hhead hcolon
      apply (resolveFrameLength_eq_wait_iff hcolon hhead).mp
      rcases h with hwait | ⟨hdesync, _⟩
      · exact hwait
      · exact absurd (indexOf_eq_some_iff.mp hcolon).left
          ((resolveFrameLength_desync hdesync).right colonIndex hhead)
    · intro hlen hnone
      rcases h with hwait | ⟨_, hidx⟩
      · rw [resolveFrameLength_of_no_colon hlen hnone] at hwait
        cases hwait
      · exact indexOf_eq_none_iff_not_mem.mp hidx

/-!
## Runs of pushes
-/

namespace TrackerFrameSplitter

theorem push_nil_of_atRest {s : TrackerFrameSplitter}
    (h : AtRest trackerFraming s.maxBufferBytes s.buffer) :
    s.push [] =
      ({ frames := [], overflowed := false, pending := s.buffer }, s) := by
  rw [push, Foundation.push_nil_of_atRest h]

/--
After every push of a run the pending bytes are within the limit and hold
nothing extractable, so an empty chunk returns nothing and changes nothing.  No
buffer the extraction loop asks about holds only part of the frame it finds.
-/
theorem quiescent_after_push (s : TrackerFrameSplitter) (chunks : List Bytes)
    (chunk : Bytes) :
    let after := (s.pushChunks (chunks ++ [chunk])).2
    after.pendingByteCount ≤ s.maxBufferBytes ∧
      NothingExtractable after.buffer ∧
      after.push [] =
        ({ frames := [], overflowed := false, pending := after.buffer },
          after) ∧
      forall buffer,
        AsksOver trackerFraming s.maxBufferBytes s.buffer (chunks ++ [chunk])
            buffer ->
          forall frameLength,
            resolveFrameLength buffer = Boundary.complete frameLength ->
              ¬ buffer.length < frameLength := by
  have hrest : AtRest trackerFraming s.maxBufferBytes
      (s.pushChunks (chunks ++ [chunk])).2.buffer := by
    rw [pushChunks_eq]
    exact pushAll_atRest s.buffer chunks chunk
  refine ⟨hrest.length_le, nothingExtractable_iff_settled.mpr hrest.settled,
    ?_, ?_⟩
  · apply push_nil_of_atRest
    rw [pushChunks_eq] at hrest ⊢
    exact hrest
  · intro buffer _ frameLength hres
    exact Nat.not_lt.mpr
      (completesBuffered_trackerFraming buffer frameLength hres)

end TrackerFrameSplitter

end Tracker
end AvtTracker
