/-
# Runs on a replayed list

A replayed list gives out its values one by one, whoever asks.  The place of the next
value and the requests kept stay in step over any run, also when evaluations fail and
when the list runs out: no value is lost, given out twice or given out of order.  Once the
list has run out nothing changes any more.

Because the values are given out in order, what was done before matters to an evaluation
only through the number of values it took.  The evaluation comes to the same on a fresh
replay of the values that are left, but for the length of the list that is reported when
it runs out.
-/

import DiceFormula.Proofs.SharedSource

namespace DiceFormula

namespace ReplaySource

/-- What is true of a watched replay of these values after any run. -/
structure Kept (values : Array Int) (watched : Watched ReplaySource) : Prop where
  values_eq : watched.source.values = values
  place_le : watched.source.place ≤ values.size
  size_calls : watched.source.calls.size = watched.source.place
  /-- The requests that were answered are the ones kept, each answered with the value of
  its place. -/
  granted_eq : watched.granted =
    watched.source.calls.toList.zip (values.toList.take watched.source.place)
  /-- Since a request was not answered the list is used up and nothing has changed. -/
  failed : ∀ request ∈ watched.requests, ∀ failure, request.answer = .error failure →
    watched.source.place = values.size ∧ request.after = watched.source
  /-- Behind a request that was not answered none is answered. -/
  pairwise : watched.requests.Pairwise fun earlier later =>
    ∀ failure, earlier.answer = .error failure →
      later.answer = .error (.exhausted values.size) ∧ later.after = earlier.after

/-- As many values were taken as requests were kept. -/
theorem Kept.length_calls {values : Array Int} {watched : Watched ReplaySource}
    (kept : Kept values watched) :
    watched.source.calls.toList.length =
      (values.toList.take watched.source.place).length := by
  rw [Array.length_toList, kept.size_calls, List.length_take, Array.length_toList,
    Nat.min_eq_left kept.place_le]

theorem kept_start (values : Array Int) : Kept values (.start (start values)) where
  values_eq := rfl
  place_le := Nat.zero_le _
  size_calls := rfl
  granted_eq := rfl
  failed := by simp [Watched.start]
  pairwise := .nil

theorem draw_of_lt {values : Array Int} {place : Nat} (room : place < values.size)
    (calls : Array (Int × Int)) (low high : Int) :
    RandomSource.draw (⟨values, place, calls⟩ : ReplaySource) low high =
      (.ok values[place], ⟨values, place + 1, calls.push (low, high)⟩) :=
  dif_pos room

theorem draw_of_ge {values : Array Int} {place : Nat} (used : values.size ≤ place)
    (calls : Array (Int × Int)) (low high : Int) :
    RandomSource.draw (⟨values, place, calls⟩ : ReplaySource) low high =
      (.error (.exhausted values.size), ⟨values, place, calls⟩) :=
  dif_neg (Nat.not_lt.2 used)

/-- A request gives out the next value, or it finds the list used up. -/
theorem Kept.draw {values : Array Int} {watched : Watched ReplaySource}
    (kept : Kept values watched) (low high : Int) :
    Kept values (RandomSource.draw watched low high).2 := by
  obtain ⟨⟨values, place, calls⟩, requests⟩ := watched
  have sameLength := kept.length_calls
  obtain ⟨rfl, place_le, size_calls, granted_eq, failed, pairwise⟩ := kept
  simp only [Watched.granted] at place_le size_calls granted_eq failed pairwise
  by_cases room : place < values.size
  · have drawn := draw_of_lt room calls low high
    simp only [RandomSource.draw, Watched.draw] at drawn ⊢
    rw [drawn]
    refine ⟨rfl, room, by simp [size_calls], ?_, ?_, ?_⟩
    · have next : values.toList.take (place + 1) = values.toList.take place ++ [values[place]] :=
        List.take_succ_eq_append_getElem room
      rw [Watched.granted, List.filterMap_append, granted_eq, next, Array.toList_push,
        List.zip_append sameLength]
      rfl
    · intro request member failure notAnswered
      rcases List.mem_append.1 member with earlier | now
      · have usedUp := (failed request earlier failure notAnswered).1
        omega
      · rw [List.mem_singleton.1 now] at notAnswered
        cases notAnswered
    · refine List.pairwise_append.2 ⟨pairwise, List.pairwise_singleton _ _, ?_⟩
      intro earlier member later _ failure notAnswered
      have usedUp := (failed earlier member failure notAnswered).1
      omega
  · have used : values.size ≤ place := Nat.not_lt.1 room
    have drawn := draw_of_ge used calls low high
    simp only [RandomSource.draw, Watched.draw] at drawn ⊢
    rw [drawn]
    refine ⟨rfl, place_le, size_calls, ?_, ?_, ?_⟩
    · rw [Watched.granted, List.filterMap_append, granted_eq]
      exact List.append_nil _
    · intro request member failure notAnswered
      rcases List.mem_append.1 member with earlier | now
      · exact failed request earlier failure notAnswered
      · rw [List.mem_singleton.1 now]
        exact ⟨Nat.le_antisymm place_le used, rfl⟩
    · refine List.pairwise_append.2 ⟨pairwise, List.pairwise_singleton _ _, ?_⟩
      intro earlier member later now failure notAnswered
      rw [List.mem_singleton.1 now]
      exact ⟨rfl, (failed earlier member failure notAnswered).2.symm⟩

/-- The invariant holds after every run. -/
theorem kept_takeAll (values : Array Int) (steps : List SharedStep) :
    Kept values (SharedStep.takeAll (.start (start values)) steps).2 :=
  SharedStep.takeAll_preserves (Kept values) (fun _ low high kept => kept.draw low high)
    (kept_start values) steps

/-- A fresh replay of the values from a place on goes along with a replay that has got to
that place, and keeps the requests made since. -/
structure Resumes (values : Array Int) (start : Nat) (before : Array (Int × Int))
    (source fresh : ReplaySource) : Prop where
  values_eq : source.values = values
  fresh_values : fresh.values = values.extract start
  place_eq : source.place = start + fresh.place
  calls_eq : source.calls = before ++ fresh.calls

/-- A fresh replay of the values that are left answers alike.  When they are used up it
reports only their number. -/
theorem Resumes.inStep (values : Array Int) (place : Nat) (before : Array (Int × Int)) :
    InStep (fun failure other => failure = .exhausted values.size ∧
      other = .exhausted (values.size - place)) (Resumes values place before) := by
  rintro ⟨_, _, _⟩ ⟨_, offset, calls⟩ ⟨values_eq, fresh_values, place_eq, calls_eq⟩ low high
  simp only at values_eq fresh_values place_eq calls_eq
  rw [values_eq, fresh_values, place_eq, calls_eq]
  have size : (values.extract place).size = values.size - place := by simp
  by_cases room : place + offset < values.size
  · have freshRoom : offset < (values.extract place).size := by omega
    have drawn := draw_of_lt room (before ++ calls) low high
    have freshDrawn := draw_of_lt freshRoom calls low high
    rw [drawn, freshDrawn]
    simp only [Array.getElem_extract]
    exact .answered _ ⟨rfl, rfl, Nat.add_assoc _ _ _, Array.push_append⟩
  · have used : values.size ≤ place + offset := Nat.not_lt.1 room
    have freshUsed : (values.extract place).size ≤ offset := by omega
    have drawn := draw_of_ge used (before ++ calls) low high
    have freshDrawn := draw_of_ge freshUsed calls low high
    rw [drawn, freshDrawn]
    exact .failed ⟨rfl, congrArg DrawFailure.exhausted size⟩ ⟨rfl, rfl, rfl, rfl⟩

theorem Resumes.remaining_eq {values : Array Int} {start : Nat} {before : Array (Int × Int)}
    {source fresh : ReplaySource} (resumes : Resumes values start before source fresh) :
    source.remaining = fresh.remaining := by
  rw [remaining, remaining, resumes.values_eq, resumes.fresh_values, resumes.place_eq,
    Array.size_extract, Nat.min_self, Nat.sub_sub]

/-- An evaluation on a source that has given out some values comes to the same as one on a
fresh replay of the others. -/
theorem evaluate_fresh {ρ : Type} [Resolver ρ] {source : ReplaySource}
    (inPlace : source.calls.size = source.place) (formula : Formula) (resolver : ρ) :
    let here := formula.evaluate resolver (.start source)
    let fresh :=
      formula.evaluate resolver (.start (start (source.values.extract source.calls.size)))
    here.1 = fresh.1.mapError (fun _ => .exhausted source.values.size) ∧
    (∀ failure, fresh.1 = .error failure →
      failure = .exhausted (source.values.size - source.calls.size)) ∧
    here.2.events = fresh.2.events ∧ here.2.resolver = fresh.2.resolver ∧
    here.2.source.calls = source.calls ++ fresh.2.source.calls ∧
    here.2.source.remaining = fresh.2.source.remaining := by
  have resumes : Resumes source.values source.calls.size source.calls source
      (start (source.values.extract source.calls.size)) :=
    ⟨rfl, rfl, inPlace.symm, Array.append_empty.symm⟩
  have alike := formula.evaluate_alike (Resumes.inStep _ _ _) resumes resolver []
  obtain ⟨⟨resumed, record⟩, sameResolver⟩ := alike.related
  refine and_assoc.1 ⟨?_, congrArg List.reverse record, sameResolver, resumed.calls_eq,
    resumed.remaining_eq⟩
  simp only [Play.start]
  generalize formula.evaluate resolver ⟨source, []⟩ = here at alike
  generalize formula.evaluate resolver
    ⟨start (source.values.extract source.calls.size), []⟩ = fresh at alike
  cases alike with
  | answered outcome => exact ⟨rfl, fun failure failed => nomatch failed⟩
  | failed failures =>
      obtain ⟨rfl, rfl⟩ := failures
      exact ⟨rfl, fun failure failed => (Except.error.inj failed).symm⟩

end ReplaySource

open ReplaySource in
/-- Over every run on a replayed list no value is lost, given out twice or out of order.
The requests kept and the values left make up the list; the requests that were answered
are the requests kept, each with the value of its place; and after a request that was not
answered no value is left, none is answered and nothing changes.  An evaluation that comes
next has the outcome it has on a fresh replay of the values that are left. -/
theorem replay_run (values : Array Int) (steps : List SharedStep) :
    let watched := (SharedStep.takeAll (Watched.start (start values)) steps).2
    let source := watched.source
    SharedStep.takeAll (start values) steps =
      ((SharedStep.takeAll (Watched.start (start values)) steps).1, source) ∧
    source.values = values ∧ source.place ≤ values.size ∧
    source.calls.size + source.remaining = values.size ∧
    watched.granted.length = source.calls.size ∧
    (∀ (place : Nat) (bounds : Int × Int) (value : Int),
      watched.granted[place]? = some (bounds, value) →
        source.calls[place]? = some bounds ∧ values[place]? = some value) ∧
    (∀ request ∈ watched.requests, ∀ failure, request.answer = .error failure →
      source.remaining = 0 ∧ request.after = source) ∧
    watched.requests.Pairwise (fun earlier later =>
      ∀ failure, earlier.answer = .error failure →
        later.answer = .error (.exhausted values.size) ∧ later.after = earlier.after) ∧
    ∀ {ρ : Type} [Resolver ρ] (formula : Formula) (resolver : ρ) (rest : List SharedStep),
      let fresh := formula.evaluate resolver
        (.start (start (values.extract watched.granted.length)))
      (SharedStep.takeAll (start values)
          (steps ++ .evaluate formula resolver :: rest)).1[steps.length]? =
        some (.evaluated (fresh.1.mapError fun _ => .exhausted values.size)) ∧
      ∀ failure, fresh.1 = .error failure →
        failure = .exhausted (values.size - watched.granted.length) := by
  intro watched source
  have kept : Kept values watched := kept_takeAll values steps
  have unwatched := Watched.takeAll_start (start values) steps
  have granted_length : watched.granted.length = source.calls.size := by
    rw [kept.granted_eq, List.length_zip, ← kept.length_calls, Nat.min_self, Array.length_toList]
  refine ⟨unwatched, kept.values_eq, kept.place_le, ?_, granted_length, ?_, ?_, kept.pairwise, ?_⟩
  · rw [remaining, kept.values_eq, kept.size_calls, Nat.add_sub_cancel' kept.place_le]
  · intro place bounds value granted
    rw [kept.granted_eq, List.getElem?_zip_eq_some, Array.getElem?_toList, List.getElem?_take,
      Array.getElem?_toList] at granted
    obtain ⟨request, given⟩ := granted
    by_cases taken : place < source.place
    · rw [if_pos taken] at given
      exact ⟨request, given⟩
    · rw [if_neg taken] at given
      cases given
  · intro request member failure notAnswered
    obtain ⟨usedUp, unchanged⟩ := kept.failed request member failure notAnswered
    refine ⟨?_, unchanged⟩
    rw [remaining, kept.values_eq, usedUp, Nat.sub_self]
  · intro ρ _ formula resolver rest
    obtain ⟨outcome, failures, -⟩ := evaluate_fresh kept.size_calls formula resolver
    rw [kept.values_eq, ← granted_length] at outcome failures
    refine ⟨?_, failures⟩
    -- The steps before it come to one outcome each, so the evaluation's is the next.
    have place := SharedStep.length_takeAll (start values) steps
    rw [SharedStep.takeAll_append, List.getElem?_append_right (Nat.le_of_eq place), place,
      Nat.sub_self, unwatched, ← outcome]
    rfl

end DiceFormula
