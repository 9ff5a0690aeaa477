import AvtTracker.Foundation.FramingRuns

/-!
# What has arrived so far

A stream is looked at while it is still being received.  If the rule waits
wherever a push ends inside a frame, the frames handed out up to any moment are
those of which every byte has arrived.
-/

namespace AvtTracker
namespace Foundation

/-- The leading items whose sizes fit into a number of received bytes. -/
def arrivedBy {α : Type} (size : α -> Nat) : List α -> Nat -> List α
  | [], _ => []
  | x :: xs, received =>
      if size x ≤ received then x :: arrivedBy size xs (received - size x)
      else []

theorem arrivedBy_map {α β : Type} {f : α -> β} {size : β -> Nat}
    (xs : List α) (received : Nat) :
    arrivedBy size (xs.map f) received =
      (arrivedBy (fun x => size (f x)) xs received).map f := by
  induction xs generalizing received with
  | nil => rfl
  | cons x xs ih =>
      rw [List.map_cons, arrivedBy, arrivedBy]
      by_cases h : size (f x) ≤ received
      · rw [if_pos h, if_pos h, ih, List.map_cons]
      · rw [if_neg h, if_neg h, List.map_nil]

theorem arrivedBy_append (done rest : List Bytes) (received : Nat) :
    arrivedBy List.length (done ++ rest) (done.flatten.length + received) =
      done ++ arrivedBy List.length rest received := by
  induction done with
  | nil => rw [List.flatten_nil, List.length_nil, Nat.zero_add]; rfl
  | cons f done ih =>
      have hle : f.length ≤ (f :: done).flatten.length + received := by
        rw [List.flatten_cons, List.length_append]
        lia
      have hrest : (f :: done).flatten.length + received - f.length =
          done.flatten.length + received := by
        rw [List.flatten_cons, List.length_append]
        lia
      rw [List.cons_append, arrivedBy, if_pos hle, hrest, ih]
      rfl

theorem arrivedBy_eq_nil {R : FramingRule} {frames : List Bytes}
    {pending : Bytes} (h : Waiting R frames pending) :
    arrivedBy List.length frames pending.length = [] := by
  rcases h.inside with ⟨hframes, _⟩ | ⟨f, tail, hframes, _, hlen⟩
  · rw [hframes]
    rfl
  · rw [hframes, arrivedBy, if_neg (Nat.not_le.mpr hlen)]

/-- A rule that waits at a cut waits with what has come of the open frame. -/
theorem IsCut.waiting {R : FramingRule} {frames done rest : List Bytes}
    {buf left : Bytes} (h : IsCut frames done rest buf left)
    (hwaits : forall f tail, rest = f :: tail -> left <+: f ->
      left.length < f.length -> R.resolve left = Boundary.wait) :
    Waiting R rest left := by
  refine ⟨h.inside, ?_⟩
  rcases h.inside with ⟨_, hleft⟩ | ⟨f, tail, hrest, hpre, hlen⟩
  · rw [hleft]
    exact R.resolve_nil
  · exact hwaits f tail hrest hpre hlen

/-- If every frame fits, so does the part of it that is being waited for. -/
theorem Waiting.fits {R : FramingRule} {maxBufferBytes : Nat}
    {frames : List Bytes} {pending : Bytes} (h : Waiting R frames pending)
    (hmax : forall f, f ∈ frames -> f.length ≤ maxBufferBytes) :
    pending.length ≤ maxBufferBytes := by
  rcases h.inside with ⟨_, hpending⟩ | ⟨f, tail, hframes, _, hlen⟩
  · rw [hpending]
    exact Nat.zero_le _
  · have hmem : f ∈ frames := by
      rw [hframes]
      exact List.mem_cons_self
    exact Nat.le_trans (Nat.le_of_lt hlen) (hmax f hmem)

theorem framesOf_awaited {R : FramingRule} {maxBufferBytes : Nat}
    {chunks : List Bytes} :
    forall {frames : List Bytes} {pending : Bytes},
      Recognizes R frames -> Waiting R frames pending ->
      pending ++ chunks.flatten <+: frames.flatten ->
      (forall f, f ∈ frames -> f.length ≤ maxBufferBytes) ->
      AwaitsCuts R frames pending chunks ->
      framesOf (pushAll R maxBufferBytes pending chunks).1 =
        arrivedBy List.length frames (pending ++ chunks.flatten).length := by
  induction chunks with
  | nil =>
      intro frames pending _ hwait _ _ _
      rw [List.flatten_nil, List.append_nil, arrivedBy_eq_nil hwait]
      rfl
  | cons chunk chunks ih =>
      intro frames pending hrec hwait hstream hmax hawaits
      have hreceived : pending ++ chunk <+: frames.flatten := by
        refine List.IsPrefix.trans ?_ hstream
        rw [List.flatten_cons, ← List.append_assoc]
        exact List.prefix_append _ _
      rcases exists_isCut hreceived with ⟨done, rest, left, hcut⟩
      have hbytes : pending ++ (chunk :: chunks).flatten =
          done.flatten ++ (left ++ chunks.flatten) := by
        rw [List.flatten_cons, ← List.append_assoc, hcut.buf_eq,
          List.append_assoc]
      have hdrain := hcut.drain_eq hrec
      have hframes := hcut.frames_eq
      subst hframes
      have hwaiting : Waiting R rest left := by
        refine hcut.waiting fun f tail hrest hpre hlen => ?_
        refine hawaits done f tail left [chunk] chunks ?_ rfl ?_ hpre hlen
        · rw [hrest]
        · rw [List.flatten_cons, List.flatten_nil, List.append_nil]
          exact hcut.buf_eq
      have hmax' : forall f, f ∈ rest -> f.length ≤ maxBufferBytes :=
        fun f hf => hmax f (List.mem_append_right done hf)
      have hrest : left ++ chunks.flatten <+: rest.flatten := by
        rw [hbytes, List.flatten_append] at hstream
        exact (List.prefix_append_right_inj done.flatten).mp hstream
      rw [drain_wait hwaiting.waits, List.append_nil] at hdrain
      have hp := push_of_drain hdrain (hwaiting.fits hmax')
      have hnext := ih hrec.of_append hwaiting hrest hmax'
        ((awaitsCuts_cons hwait hcut.buf_eq).mp hawaits)
      have hlength : (done.flatten ++ (left ++ chunks.flatten)).length =
          done.flatten.length + (left ++ chunks.flatten).length :=
        List.length_append
      rw [framesOf_pushAll_cons, hp, hnext, hbytes, hlength, arrivedBy_append]

end Foundation
end AvtTracker
