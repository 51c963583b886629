/-
# Topics that are listed earlier

Two waits for the same topics are compared, where the replies of one, question by
question, list whatever those of the other list, and perhaps more.  The two soon
look for different topics in answers to the same question: a topic that one has
just found the other may have found long before.  What stays true from look to
look is about what is missing (`Reveals.missing_suffix`):

> what the better informed wait is missing is the end of what the other is missing.

The shutdown is the same for both: it is requested during the same questions, or
in the pauses behind them (`StopsBy`).  Then the flags agree up to the look at which
the better informed wait has found all (`Reveals.up_iff_up`), so it succeeds if the
other does, no later; and if both are cancelled they are so at the same look
(`wait_reveals`).

Source: `wait_for`; `SPEC_FULL.md` 4.2, Topic Availability Gate.
-/

import OctetRelay.Proofs.Cancellation
import OctetRelay.Proofs.TopicSearch

namespace OctetRelay
namespace Gate

/-- Whether replies answer each question that others answer, with all the topics of those. -/
def Reveals (fewer more : Nat → Reply) : Prop :=
  ∀ query names, (fewer query).answer = .ok names →
    ∃ others, (more query).answer = .ok others ∧ names ⊆ others

section Request

variable (replies : Nat → Reply) (running : Bool) (topics : List String)

/-- Whether shutdown is requested during a question or in the pause behind it. -/
def RequestedBehind (query : Nat) : Prop :=
  RequestedAt replies running topics (.inQuery query) ∨
    RequestedAt replies running topics (.inPause query)

/-- Whether the questions behind which shutdown is requested are those of some numbers. -/
def StopsBy (stop : Nat → Prop) : Prop :=
  ∀ query, Asks replies running topics query →
    (RequestedBehind replies running topics query ↔ stop query)

variable {replies running topics}

/-- The flag stays up unless shutdown is requested. -/
theorem up_succ_iff {query : Nat} (hmissing : (look replies running topics query).missing ≠ []) :
    (look replies running topics (query + 1)).up = true ↔
      (look replies running topics query).up = true ∧
        ¬ RequestedBehind replies running topics query := by
  obtain ⟨topic, rest, htopics⟩ := List.exists_cons_of_ne_nil hmissing
  simp only [RequestedBehind, RequestedAt, htopics, look]
  cases hlists : (replies query).lists topic with
  | true => rw [Look.next_listed htopics hlists]; simp [hlists]
  | false => rw [Look.next_missed htopics hlists]; simp [hlists]

/-- Shutdown that is requested during the questions of some numbers, and in no pause, is fixed by
the numbers of the questions. -/
theorem stopsBy_of_inQuery {stop : Nat → Prop}
    (hquery : ∀ query, (replies query).stopInQuery = true ↔ stop query)
    (hpause : ∀ query, (replies query).stopInPause = false) :
    StopsBy replies running topics stop := by
  intro query hasks
  simp only [RequestedBehind, RequestedAt, hquery, hpause]
  simp [hasks.2]

end Request

variable {fewer more : Nat → Reply} {running : Bool} {topics : List String}

/-- What the fewer answers list the more answers list too. -/
theorem Reveals.lists (h : Reveals fewer more) {query : Nat} {topic : String}
    (hlists : (fewer query).lists topic = true) : (more query).lists topic = true := by
  obtain ⟨names, hanswer, hmem⟩ := Reply.lists_iff_mentions.1 hlists
  obtain ⟨others, hothers, hsubset⟩ := h query names hanswer
  exact Reply.lists_iff_mentions.2 ⟨others, hothers, hsubset hmem⟩

/-- **What is missing with more topics listed is the end of what is missing with fewer.** -/
theorem Reveals.missing_suffix (h : Reveals fewer more) (query : Nat) :
    (look more running topics query).missing <:+ (look fewer running topics query).missing := by
  induction query with
  | zero => exact List.suffix_refl _
  | succ query ih =>
    have hnext : (look more running topics (query + 1)).missing <:+
        (look more running topics query).missing := (Look.next_le _ (more query)).2
    cases hfewer : (look fewer running topics query).missing with
    | nil =>
      have hstay : look fewer running topics (query + 1) = look fewer running topics query :=
        Look.next_nil hfewer (fewer query)
      rw [hstay]
      exact hnext.trans ih
    | cons topic rest =>
      rw [hfewer] at ih
      cases hlists : (fewer query).lists topic with
      | false =>
        have hstay : (look fewer running topics (query + 1)).missing = topic :: rest := by
          rw [look, Look.next_missed hfewer hlists]
        rw [hstay]
        exact hnext.trans ih
      | true =>
        have hfound : (look fewer running topics (query + 1)).missing = rest := by
          rw [look, Look.next_listed hfewer hlists]
        rw [hfound]
        rcases List.suffix_cons_iff.1 ih with hsame | hbehind
        · -- both look for the same topic, and both find it
          rw [look, Look.next_listed hsame (h.lists hlists)]
        · exact hnext.trans hbehind

variable {stop : Nat → Prop}

/-- **The flags agree** as long as the better informed wait has not found all. -/
theorem Reveals.up_iff_up (h : Reveals fewer more) (hfewer : StopsBy fewer running topics stop)
    (hmore : StopsBy more running topics stop) {query : Nat}
    (hmissing : ∀ earlier, earlier < query → (look more running topics earlier).missing ≠ []) :
    (look more running topics query).up = true ↔ (look fewer running topics query).up = true := by
  induction query with
  | zero => exact Iff.rfl
  | succ query ih =>
    have hmore' := hmissing query (Nat.lt_succ_self query)
    have hfewer' : (look fewer running topics query).missing ≠ [] := fun hnil =>
      hmore' (List.suffix_nil.1 (hnil ▸ h.missing_suffix query))
    have hup := ih fun earlier hlt => hmissing earlier (Nat.lt_succ_of_lt hlt)
    rw [up_succ_iff hmore', up_succ_iff hfewer', ← hup]
    refine and_congr_right fun hquery => not_congr ?_
    exact (hmore query ⟨hquery, hmore'⟩).trans (hfewer query ⟨hup.1 hquery, hfewer'⟩).symm

/-- **A wait that succeeds succeeds with more topics listed**, at no later look. -/
theorem Reveals.course_of_ready (h : Reveals fewer more)
    (hfewer : StopsBy fewer running topics stop)
    (hmore : StopsBy more running topics stop) {count patience : Nat}
    (hcourse : Course fewer running topics 0 count (wait fewer patience running topics))
    (hready : (look fewer running topics count).missing = []) :
    ∃ other, other ≤ count ∧ (look more running topics other).missing = [] ∧
      Course more running topics 0 other (wait more patience running topics) := by
  have hnil : (look more running topics count).missing = [] :=
    List.suffix_nil.1 (hready ▸ h.missing_suffix count)
  have hexists : ∃ other, (look more running topics other).missing = [] := ⟨count, hnil⟩
  -- the first look at which nothing is missing any more
  let other := Nat.find hexists
  have hle : other ≤ count := Nat.find_min' hexists hnil
  have hfound : (look more running topics other).missing = [] := Nat.find_spec hexists
  have hmissing (query : Nat) (hlt : query < other) :
      (look more running topics query).missing ≠ [] := Nat.find_min hexists hlt
  have hasks (query : Nat) (hlt : query < other) : Asks more running topics query := by
    have hup : (look more running topics query).up = true ↔
        (look fewer running topics query).up = true :=
      h.up_iff_up hfewer hmore fun earlier hless => hmissing earlier (Nat.lt_trans hless hlt)
    exact ⟨hup.2 (hcourse.asks query (Nat.zero_le _) (by omega)).1, hmissing query hlt⟩
  -- as many topics are found with fewer questions, so there are fewer pauses
  have hpauses := (turns_counts hmissing).2
  have hcounts := hcourse.counts.2
  rw [hfound, List.length_nil] at hpauses
  rw [hready, List.length_nil] at hcounts
  have hpatience : (wait fewer patience running topics).trace.pauses ≤ patience :=
    pauses_waitFrom_le patience 0 running topics
  exact ⟨other, hle, hfound,
    course_of_pauses_le hasks (fun hstill => hstill.2 hfound) (by omega)⟩

/-- **Waits are cancelled at the same look**: the one before which the flag first is down. -/
theorem Reveals.count_eq (h : Reveals fewer more) (hfewer : StopsBy fewer running topics stop)
    (hmore : StopsBy more running topics stop) {count other : Nat} {waited waited' : Waited}
    (hcourse : Course fewer running topics 0 count waited)
    (hcourse' : Course more running topics 0 other waited')
    (hmissing : (look more running topics other).missing ≠ []) : other = count := by
  have hasks (query : Nat) (hle : query ≤ other) :
      Asks more running topics query ↔ Asks fewer running topics query := by
    have hmore' := missing_ne_nil_of_le hle hmissing
    have hfewer' : (look fewer running topics query).missing ≠ [] := fun hnil =>
      hmore' (List.suffix_nil.1 (hnil ▸ h.missing_suffix query))
    have hup : (look more running topics query).up = true ↔
        (look fewer running topics query).up = true :=
      h.up_iff_up hfewer hmore fun earlier hlt =>
        missing_ne_nil_of_le (Nat.le_trans (Nat.le_of_lt hlt) hle) hmissing
    exact and_congr hup (iff_of_true hmore' hfewer')
  have hstops : ¬ Asks fewer running topics count := Nat.zero_add count ▸ hcourse.stops
  have hstops' : ¬ Asks more running topics other := Nat.zero_add other ▸ hcourse'.stops
  rcases Nat.lt_trichotomy other count with hlt | heq | hlt
  · have hother := hcourse.asks other (Nat.zero_le _) (by omega)
    exact absurd ((hasks other (Nat.le_refl other)).2 hother) hstops'
  · exact heq
  · have hcount := hcourse'.asks count (Nat.zero_le _) (by omega)
    exact absurd ((hasks count (Nat.le_of_lt hlt)).1 hcount) hstops

/-- **Topics that are listed earlier do a wait no harm.**

Let one wait be answered whenever another is, with at least the same topics, and let shutdown be
requested behind the questions of the same numbers in both, if at all.  If the other wait succeeds,
so does this one, with no more questions and no more pauses; and if both are cancelled, this one
is missing the end of what the other is missing. -/
theorem wait_reveals {fewer more : Nat → Reply} {running : Bool} {topics : List String}
    {stop : Nat → Prop} (h : Reveals fewer more) (hfewer : StopsBy fewer running topics stop)
    (hmore : StopsBy more running topics stop) :
    (∀ patience, (wait fewer patience running topics).outcome = .ready →
      (wait more patience running topics).outcome = .ready ∧
        (wait more patience running topics).trace.queries ≤
          (wait fewer patience running topics).trace.queries ∧
        (wait more patience running topics).trace.pauses ≤
          (wait fewer patience running topics).trace.pauses) ∧
      ∀ patience others pending rest,
        (wait fewer patience running topics).outcome = .cancelled pending →
        (wait more others running topics).outcome = .cancelled rest → rest <:+ pending := by
  constructor
  · intro patience hready
    obtain ⟨count, hcourse⟩ := exists_course fun pending hpending => by
      rw [hready] at hpending
      cases hpending
    have hnil : (look fewer running topics count).missing = [] := by
      rw [← hcourse.pending_eq, hready]
      rfl
    obtain ⟨other, hle, hnil', hcourse'⟩ := h.course_of_ready hfewer hmore hcourse hnil
    obtain ⟨hqueries, hpauses⟩ := hcourse.counts
    obtain ⟨hqueries', hpauses'⟩ := hcourse'.counts
    rw [hnil] at hpauses
    rw [hnil'] at hpauses'
    refine ⟨?_, by omega, by omega⟩
    rw [hcourse'.outcome, Nat.zero_add, Look.outcome_of_nil hnil']
  · intro patience others pending rest hcancelled hcancelled'
    obtain ⟨count, hcourse⟩ := exists_course fun missing hmissing => by
      rw [hcancelled] at hmissing
      cases hmissing
    obtain ⟨other, hcourse'⟩ := exists_course fun missing hmissing => by
      rw [hcancelled'] at hmissing
      cases hmissing
    have hpending : pending = (look fewer running topics count).missing := by
      rw [← hcourse.pending_eq, hcancelled]
      rfl
    have hrest : rest = (look more running topics other).missing := by
      rw [← hcourse'.pending_eq, hcancelled']
      rfl
    have hmissing : (look more running topics other).missing ≠ [] := fun hnil => by
      rw [hcourse'.outcome, Nat.zero_add, Look.outcome_of_nil hnil] at hcancelled'
      cases hcancelled'
    obtain rfl := h.count_eq hfewer hmore hcourse hcourse' hmissing
    rw [hpending, hrest]
    exact h.missing_suffix other

/-- Shutdown is requested during the second question.  One answer lists a topic earlier: a wait for
that topic alone is ready a question sooner, and a wait for three is cancelled with one topic
missing instead of two. -/
theorem wait_reveals_in_second_question :
    let fewer : Nat → Reply
      | 0 => { answer := .ok ["b"] }
      | 1 => { answer := .ok ["a"], stopInQuery := true }
      | _ => { answer := .error "down" }
    let more : Nat → Reply
      | 0 => { answer := .ok ["b", "a"] }
      | 1 => { answer := .ok ["a", "b"], stopInQuery := true }
      | _ => { answer := .ok [] }
    Reveals fewer more ∧
      (wait fewer 1 true ["a"]).outcome = .ready ∧ (wait more 1 true ["a"]).outcome = .ready ∧
      (wait more 1 true ["a"]).trace.queries ≤ (wait fewer 1 true ["a"]).trace.queries ∧
      (wait fewer 1 true ["a", "b", "c"]).outcome = .cancelled ["b", "c"] ∧
      (wait more 1 true ["a", "b", "c"]).outcome = .cancelled ["c"] ∧ ["c"] <:+ ["b", "c"] := by
  intro fewer more
  have hreveals : Reveals fewer more := by
    intro query names hanswer
    match query with
    | 0 => exact ⟨["b", "a"], rfl, Except.ok.inj hanswer ▸ by decide⟩
    | 1 => exact ⟨["a", "b"], rfl, Except.ok.inj hanswer ▸ by decide⟩
    | _ + 2 => cases hanswer
  have hfewer (topics : List String) : StopsBy fewer true topics (· = 1) :=
    stopsBy_of_inQuery
      (fun query => match query with
        | 0 | 1 | _ + 2 => by simp [fewer])
      (fun query => match query with
        | 0 | 1 | _ + 2 => rfl)
  have hmore (topics : List String) : StopsBy more true topics (· = 1) :=
    stopsBy_of_inQuery
      (fun query => match query with
        | 0 | 1 | _ + 2 => by simp [more])
      (fun query => match query with
        | 0 | 1 | _ + 2 => rfl)
  have hready : (wait fewer 1 true ["a"]).outcome = .ready := by
    have hasks (query : Nat) (hlt : query < 2) : Asks fewer true ["a"] query := by
      match query, hlt with
      | 0, _ | 1, _ => exact ⟨rfl, nofun⟩
    exact (course_of_pauses_le hasks (fun h => h.2 rfl) (by decide)).outcome
  have hcancelled : (wait fewer 1 true ["a", "b", "c"]).outcome = .cancelled ["b", "c"] := by
    have hasks (query : Nat) (hlt : query < 2) : Asks fewer true ["a", "b", "c"] query := by
      match query, hlt with
      | 0, _ | 1, _ => exact ⟨rfl, nofun⟩
    exact (course_of_pauses_le hasks (fun h => Bool.false_ne_true h.1) (by decide)).outcome
  have hcancelled' : (wait more 1 true ["a", "b", "c"]).outcome = .cancelled ["c"] := by
    have hasks (query : Nat) (hlt : query < 2) : Asks more true ["a", "b", "c"] query := by
      match query, hlt with
      | 0, _ | 1, _ => exact ⟨rfl, nofun⟩
    exact (course_of_pauses_le hasks (fun h => Bool.false_ne_true h.1) (by decide)).outcome
  obtain ⟨hsooner, -⟩ := wait_reveals hreveals (hfewer ["a"]) (hmore ["a"])
  obtain ⟨-, hpending⟩ :=
    wait_reveals hreveals (hfewer ["a", "b", "c"]) (hmore ["a", "b", "c"])
  obtain ⟨hready', hqueries, -⟩ := hsooner 1 hready
  exact ⟨hreveals, hready, hready', hqueries, hcancelled, hcancelled',
    hpending 1 1 _ _ hcancelled hcancelled'⟩

end Gate
end OctetRelay
