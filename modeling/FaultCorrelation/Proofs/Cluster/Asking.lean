import FaultCorrelation.Proofs.Cluster.Growth
import FaultCorrelation.Proofs.Cluster.Relation

/-! # What clustering asks for

A run is taken to pieces that each explore some points of those that wait, one after the other, and
leave the rest (`Explores`); a piece that follows explores what the pieces before it left. Exploring
a point asks for its distance from every other one. So a run asks for the rows of all points, in
some order of the points, and the distance may fail at any question and heed the questions before.

That a growth has enough steps is told by a growth that has no limit on them (`Grows`).
-/

namespace FaultCorrelation.Density

open MonadAttach (CanReturn)
open LawfulMonadAttach (canReturn_bind_imp' eq_of_canReturn_pure)

variable {D ε α β : Type} {n : Nat}

/-- What answers a question about a pair of points; it may heed the questions before. -/
abbrev Respondent (ε D : Type) (n : Nat) :=
  List (Fin n × Fin n) → Fin n → Fin n → Except ε D

/-- Ask a respondent and write the question down. -/
def Respondent.ask (respondent : Respondent ε D n) (center point : Fin n) :
    ExceptT ε (StateM (List (Fin n × Fin n))) D :=
  fun calls => (respondent calls center point, calls ++ [(center, point)])

/-- Ask one question after the other until one fails: the failure, if there is one, and all that was
asked. -/
def Respondent.askAll (respondent : Respondent ε D n) :
    (calls questions : List (Fin n × Fin n)) → Option ε × List (Fin n × Fin n)
  | calls, [] => (none, calls)
  | calls, (center, point) :: rest =>
    match respondent calls center point with
    | .ok _ => respondent.askAll (calls ++ [(center, point)]) rest
    | .error cause => (some cause, calls ++ [(center, point)])

/-- The failure of an outcome. -/
def failure? : Except ε α → Option ε
  | .ok _ => none
  | .error cause => some cause

variable {respondent : Respondent ε D n} {calls first second : List (Fin n × Fin n)}

namespace Respondent

theorem askAll_append :
    respondent.askAll calls (first ++ second) =
      match respondent.askAll calls first with
      | (none, later) => respondent.askAll later second
      | (some cause, later) => (some cause, later) := by
  induction first generalizing calls with
  | nil => rfl
  | cons question rest ih =>
    rw [List.cons_append, askAll, askAll]
    split
    · exact ih
    · rfl

/-- Whether questions that follow given ones are all answered. -/
def Answers (respondent : Respondent ε D n) (calls questions : List (Fin n × Fin n)) : Prop :=
  ∀ before center point after, questions = before ++ (center, point) :: after →
    ∃ distance, respondent (calls ++ before) center point = .ok distance

theorem answers_nil : respondent.Answers calls [] := by
  intro before center point after split
  simp at split

theorem answers_cons {center point : Fin n} {distance : D}
    (answered : respondent calls center point = .ok distance)
    (rest : respondent.Answers (calls ++ [(center, point)]) second) :
    respondent.Answers calls ((center, point) :: second) := by
  intro before middle other after split
  cases before with
  | nil =>
    obtain ⟨same, _⟩ := List.cons.inj split
    obtain ⟨rfl, rfl⟩ := Prod.mk.inj same
    exact ⟨distance, by rwa [List.append_nil]⟩
  | cons _ before =>
    obtain ⟨rfl, later⟩ := List.cons.inj split
    rw [List.append_cons]
    exact rest before middle other after later

/-- All is asked if all is answered. Otherwise the first question that fails is the last one. -/
theorem askAll_cases (respondent : Respondent ε D n) (calls questions : List (Fin n × Fin n)) :
    respondent.askAll calls questions = (none, calls ++ questions) ∧
      respondent.Answers calls questions ∨
    ∃ cause before center point after, questions = before ++ (center, point) :: after ∧
      respondent.askAll calls questions = (some cause, calls ++ before ++ [(center, point)]) ∧
      respondent.Answers calls before ∧
      respondent (calls ++ before) center point = .error cause := by
  induction questions generalizing calls with
  | nil => exact .inl ⟨by rw [askAll, List.append_nil], answers_nil⟩
  | cons question rest ih =>
    obtain ⟨center, point⟩ := question
    rw [askAll]
    cases answer : respondent calls center point with
    | error cause =>
      exact .inr ⟨cause, [], center, point, rest, rfl, by rw [List.append_nil], answers_nil,
        by rwa [List.append_nil]⟩
    | ok distance =>
      dsimp only
      rcases ih (calls ++ [(center, point)]) with ⟨asked, answers⟩ |
        ⟨cause, before, middle, other, after, rfl, asked, answers, failed⟩
      · exact .inl ⟨by rw [asked, ← List.append_cons], answers_cons answer answers⟩
      · refine .inr ⟨cause, (center, point) :: before, middle, other, after, rfl, ?_,
          answers_cons answer answers, ?_⟩
        · rw [asked, ← List.append_cons]
        · rwa [← List.append_cons] at failed

end Respondent

/-- Whether a computation with an outcome has asked the questions in sequence, until one failed. -/
def Asks (respondent : Respondent ε D n) (calls questions : List (Fin n × Fin n))
    (outcome : Except ε α × List (Fin n × Fin n)) : Prop :=
  respondent.askAll calls questions = (failure? outcome.1, outcome.2)

theorem asks_pure (respondent : Respondent ε D n) (calls : List (Fin n × Fin n)) (value : α) :
    Asks respondent calls [] ((pure value : ExceptT ε (StateM _) α).run.run calls) := rfl

theorem asks_ask (respondent : Respondent ε D n) (calls : List (Fin n × Fin n))
    (center point : Fin n) :
    Asks respondent calls [(center, point)] ((respondent.ask center point).run.run calls) := by
  change _ = (failure? (respondent calls center point), calls ++ [(center, point)])
  rw [Respondent.askAll]
  cases respondent calls center point <;> rfl

/-- A question that failed is the last one, whatever was to come. -/
theorem Asks.of_error {outcome : Except ε α × List (Fin n × Fin n)} {cause : ε}
    (asks : Asks respondent calls first outcome) (failed : outcome.1 = .error cause)
    (second : List (Fin n × Fin n)) : Asks respondent calls (first ++ second) outcome := by
  rw [Asks, failed] at asks
  rw [Asks, Respondent.askAll_append, asks, failed]
  rfl

/-- An outcome of questions that are asked from the start. -/
theorem Asks.cases {questions : List (Fin n × Fin n)}
    {outcome : Except ε α × List (Fin n × Fin n)} (asks : Asks respondent [] questions outcome) :
    (∃ value, outcome = (.ok value, questions)) ∧ respondent.Answers [] questions ∨
    ∃ cause before center point after, questions = before ++ (center, point) :: after ∧
      outcome = (.error cause, before ++ [(center, point)]) ∧
      respondent.Answers [] before ∧ respondent before center point = .error cause := by
  obtain ⟨result, calls⟩ := outcome
  rcases respondent.askAll_cases [] questions with
    ⟨asked, answers⟩ | ⟨cause, before, center, point, after, split, asked, answers, failed⟩
  · obtain ⟨succeeded, rfl⟩ := Prod.mk.inj (asked.symm.trans asks)
    cases result with
    | ok value => exact .inl ⟨⟨value, rfl⟩, answers⟩
    | error cause => contradiction
  · obtain ⟨same, rfl⟩ := Prod.mk.inj (asked.symm.trans asks)
    cases result with
    | ok value => contradiction
    | error other =>
      obtain rfl := Option.some.inj same
      exact .inr ⟨cause, before, center, point, after, split, rfl, answers, failed⟩

theorem Asks.bind {action : ExceptT ε (StateM (List (Fin n × Fin n))) α}
    {continuation : α → ExceptT ε (StateM (List (Fin n × Fin n))) β}
    (asks : Asks respondent calls first (action.run.run calls))
    (onwards : ∀ value, (action.run.run calls).1 = .ok value →
      Asks respondent (action.run.run calls).2 second
        ((continuation value).run.run (action.run.run calls).2)) :
    Asks respondent calls (first ++ second) ((action >>= continuation).run.run calls) := by
  rw [run_bind]
  cases result : (action.run.run calls).1 with
  | ok value =>
    rw [Asks, result] at asks
    rw [Asks, Respondent.askAll_append, asks]
    exact onwards value result
  | error cause =>
    rw [Asks, result] at asks
    rw [Asks, Respondent.askAll_append, asks]
    rfl

/-- The questions about the points of a list, but for the centre. -/
def questions (center : Fin n) (points : List (Fin n)) : List (Fin n × Fin n) :=
  (points.filter (· ≠ center)).map (center, ·)

/-- The questions about all points around a centre. -/
def row (center : Fin n) : List (Fin n × Fin n) := questions center (List.finRange n)

theorem mem_row {center other point : Fin n} :
    (other, point) ∈ row center ↔ other = center ∧ point ≠ center := by
  simp [row, questions, eq_comm (a := center), and_comm]

theorem length_row (center : Fin n) : (row center).length = n - 1 := by
  have erased : (List.finRange n).filter (· ≠ center) = (List.finRange n).erase center := by
    rw [(List.nodup_finRange n).erase_eq_filter]
    exact List.filter_congr fun point _ => by rw [bne, beq_eq_decide, decide_not]
  rw [row, questions, List.length_map, erased, List.length_erase_of_mem (List.mem_finRange center),
    List.length_finRange]

theorem length_rows {centers : List (Fin n)} (order : centers.Perm (List.finRange n)) :
    (centers.flatMap row).length = n * (n - 1) := by
  rw [List.length_flatMap, funext length_row, List.map_const', List.sum_replicate_nat,
    order.length_eq, List.length_finRange]

theorem nodup_rows {centers : List (Fin n)} (distinct : centers.Nodup) :
    (centers.flatMap row).Nodup := by
  rw [List.nodup_flatMap]
  refine ⟨fun center _ => ?_, distinct.imp fun {first second} different => ?_⟩
  · exact ((List.nodup_finRange n).filter _).map fun _ _ same => (Prod.mk.inj same).2
  · rintro ⟨other, point⟩ here there
    exact different ((mem_row.mp here).1.symm.trans (mem_row.mp there).1)

/-- Whether a computation with an outcome explores some of the points that are waiting, each once,
and leaves the others where it succeeds. -/
def Explores (respondent : Respondent ε D n) (waiting : Finset (Fin n)) (left : α → Finset (Fin n))
    (calls : List (Fin n × Fin n)) (outcome : Except ε α × List (Fin n × Fin n)) : Prop :=
  ∃ centers : List (Fin n), centers.Nodup ∧ (∀ center ∈ centers, center ∈ waiting) ∧
    Asks respondent calls (centers.flatMap row) outcome ∧
    ∀ value, outcome.1 = .ok value →
      ∀ point, point ∈ left value ↔ point ∈ waiting ∧ point ∉ centers

theorem explores_pure {waiting : Finset (Fin n)} {left : α → Finset (Fin n)} {value : α}
    (same : left value = waiting) :
    Explores respondent waiting left calls
      ((pure value : ExceptT ε (StateM _) α).run.run calls) := by
  refine ⟨[], List.nodup_nil, fun _ member => absurd member List.not_mem_nil, rfl,
    fun other returned point => ?_⟩
  obtain rfl := Except.ok.inj returned
  rw [same]
  exact (and_iff_left List.not_mem_nil).symm

/-- What is explored later was left by what was explored before. -/
theorem Explores.bind {waiting : Finset (Fin n)} {left : α → Finset (Fin n)}
    {still : β → Finset (Fin n)} {action : ExceptT ε (StateM (List (Fin n × Fin n))) α}
    {continuation : α → ExceptT ε (StateM (List (Fin n × Fin n))) β}
    (explores : Explores respondent waiting left calls (action.run.run calls))
    (onwards : ∀ value calls, left value ⊆ waiting →
      Explores respondent (left value) still calls ((continuation value).run.run calls)) :
    Explores respondent waiting still calls ((action >>= continuation).run.run calls) := by
  obtain ⟨centers, distinct, waits, asks, leaves⟩ := explores
  cases result : (action.run.run calls).1 with
  | error cause =>
    refine ⟨centers, distinct, waits, ?_, fun value returned => ?_⟩
    · rw [← List.append_nil (centers.flatMap row)]
      refine asks.bind fun value absurd => ?_
      rw [result] at absurd
      contradiction
    · rw [run_bind, result] at returned
      contradiction
  | ok value =>
    have left_iff := leaves value result
    obtain ⟨later, apart, remain, asked, leaving⟩ := onwards value (action.run.run calls).2
      fun point member => ((left_iff point).mp member).1
    have free (center : Fin n) (member : center ∈ later) :=
      (left_iff center).mp (remain center member)
    refine ⟨centers ++ later, ?_, fun center member => ?_, ?_, fun other returned point => ?_⟩
    · refine List.nodup_append.mpr ⟨distinct, apart, ?_⟩
      rintro center before _ after rfl
      exact (free center after).2 before
    · rcases List.mem_append.mp member with member | member
      · exact waits center member
      · exact (free center member).1
    · rw [List.flatMap_append]
      refine asks.bind fun same returned => ?_
      obtain rfl := Except.ok.inj (result.symm.trans returned)
      exact asked
    · rw [run_bind, result] at returned
      rw [leaving other returned, left_iff, List.mem_append, not_or, and_assoc]

theorem mem_unvisited {labels : Vector Label n} {point : Fin n} :
    point ∈ unvisited labels ↔ getElem labels point point.isLt = .unvisited := by
  simp [unvisited]

variable [LE D] [DecidableLE D] {density : Density D}

theorem asks_gather (center : Fin n) (points : List (Fin n)) (calls : List (Fin n × Fin n)) :
    Asks respondent calls (questions center points)
      ((density.gather respondent.ask center points).run.run calls) := by
  induction points generalizing calls with
  | nil => exact asks_pure respondent calls []
  | cons point rest ih =>
    rw [gather, questions]
    by_cases same : point = center
    · rw [if_pos same, List.filter_cons_of_neg (by simpa using same),
        ← List.append_nil (List.map ..)]
      exact (ih calls).bind fun others _ => asks_pure ..
    · rw [if_neg same, List.filter_cons_of_pos (by simpa using same), List.map_cons]
      refine (asks_ask respondent calls center point).bind fun distance _ => ?_
      rw [← List.append_nil (List.map ..)]
      exact (ih _).bind fun others _ => asks_pure ..

theorem asks_region (center : Fin n) (calls : List (Fin n × Fin n)) :
    Asks respondent calls (row center)
      ((density.region respondent.ask center).run.run calls) :=
  asks_gather center (List.finRange n) calls

/-- What is gathered is some of what there is. -/
theorem length_le_of_canReturn_gather {m : Type → Type} [Monad m] [LawfulMonad m] [MonadAttach m]
    [LawfulMonadAttach m] {distance : Fin n → Fin n → m D} {center : Fin n}
    {points reached : List (Fin n)}
    (returned : CanReturn (density.gather distance center points) reached) :
    reached.length ≤ points.length := by
  induction points generalizing reached with
  | nil =>
    rw [gather] at returned
    rw [← eq_of_canReturn_pure returned]
  | cons first rest ih =>
    rw [gather] at returned
    split at returned
    · obtain ⟨others, gathered, returned⟩ := canReturn_bind_imp' returned
      rw [← eq_of_canReturn_pure returned]
      exact Nat.succ_le_succ (ih gathered)
    · obtain ⟨d, _, returned⟩ := canReturn_bind_imp' returned
      obtain ⟨others, gathered, returned⟩ := canReturn_bind_imp' returned
      rw [← eq_of_canReturn_pure returned]
      split
      · exact Nat.succ_le_succ (ih gathered)
      · exact Nat.le_succ_of_le (ih gathered)

/-- A neighbourhood has at most all points. -/
theorem length_region_le {center : Fin n} {reached : List (Fin n)} {calls : List (Fin n × Fin n)}
    (ran : ((density.region respondent.ask center).run.run calls).1 = .ok reached) :
    reached.length ≤ n := by
  have returned : CanReturn (density.region respondent.ask center) reached :=
    ⟨calls, _, Prod.ext ran rfl⟩
  exact (length_le_of_canReturn_gather returned).trans_eq List.length_finRange

theorem explores_region {waiting : Finset (Fin n)} {center : Fin n} (waits : center ∈ waiting)
    (calls : List (Fin n × Fin n)) :
    Explores respondent waiting (fun _ => waiting.erase center) calls
      ((density.region respondent.ask center).run.run calls) := by
  refine ⟨[center], List.nodup_singleton center, fun other member => ?_, ?_, fun _ _ point => ?_⟩
  · rwa [List.mem_singleton.mp member]
  · rw [List.flatMap_singleton]
    exact asks_region center calls
  · rw [Finset.mem_erase, List.mem_singleton, and_comm]

theorem unvisited_set (labels : Vector Label n) (point : Fin n) (label : Label)
    (visited : label ≠ .unvisited) :
    unvisited (labels.set point label point.isLt) = (unvisited labels).erase point := by
  ext other
  simp only [unvisited, Finset.mem_filter, Finset.mem_univ, true_and, Finset.mem_erase,
    getElem_set_label]
  by_cases same : point = other
  · simp [same, visited]
  · simp [same, Ne.symm same]

/-- A growth explores points that were not visited, and all that it labels. -/
theorem explores_grow (steps : Nat) (labels : Vector Label n) (members queue : List (Fin n))
    (calls : List (Fin n × Fin n)) :
    Explores respondent (unvisited labels) (fun grown => unvisited grown.1) calls
      ((density.grow respondent.ask steps labels members queue).run.run calls) := by
  induction steps generalizing labels members queue calls with
  | zero => exact explores_pure rfl
  | succ steps ih =>
    cases queue with
    | nil => exact explores_pure rfl
    | cons point queue =>
      rw [grow]
      split
      · exact ih labels members queue calls
      · rename_i noise
        have same : unvisited (labels.set point .clustered) = unvisited labels := by
          rw [unvisited_set labels point .clustered (by decide), Finset.erase_eq_self]
          exact mem_unvisited.not.mpr (by simp_all)
        rw [← same]
        exact ih _ _ queue calls
      · rename_i waiting
        have waits : point ∈ unvisited labels := mem_unvisited.mpr waiting
        refine (explores_region waits calls).bind fun reached calls _ => ?_
        rw [← unvisited_set labels point .clustered (by decide)]
        exact ih ..

theorem explores_sweep (density : Density D) (respondent : Respondent ε D n)
    (labels : Vector Label n) (seeds : List (Fin n))
    (listed : ∀ point ∈ unvisited labels, point ∈ seeds) (calls : List (Fin n × Fin n)) :
    Explores respondent (unvisited labels) (fun _ => ∅) calls
      ((density.sweep respondent.ask labels seeds).run.run calls) := by
  induction seeds generalizing labels calls with
  | nil =>
    exact explores_pure (Finset.eq_empty_of_forall_notMem fun point waits =>
      List.not_mem_nil (listed point waits)).symm
  | cons seed rest ih =>
    rw [sweep]
    split
    · rename_i visited
      refine ih labels (fun point waits => ?_) calls
      rcases List.mem_cons.mp (listed point waits) with rfl | member
      · simp [show labels[point] = .unvisited from mem_unvisited.mp waits] at visited
      · exact member
    · rename_i waiting
      have waits : seed ∈ unvisited labels := mem_unvisited.mpr (by simpa using waiting)
      have later (label : Label) (visited : label ≠ .unvisited) :
          ∀ point ∈ unvisited (labels.set seed label), point ∈ rest := by
        intro point waits
        rw [unvisited_set labels seed label visited, Finset.mem_erase] at waits
        exact (List.mem_cons.mp (listed point waits.2)).resolve_left waits.1
      refine (explores_region waits calls).bind fun neighborhood calls _ => ?_
      split
      · rw [← unvisited_set labels seed .clustered (by decide)]
        refine (explores_grow (growthSteps n) _ _ _ calls).bind fun grown calls fewer => ?_
        refine (ih grown.1 (fun point waits => later .clustered (by decide) point (fewer waits))
          calls).bind fun clusters calls _ => explores_pure rfl
      · rw [← unvisited_set labels seed .noise (by decide)]
        exact ih _ (later .noise (by decide)) calls

/-- What the growth of a cluster comes to that goes on until the queue is empty or a question
fails, however many steps that takes. -/
inductive Grows (density : Density D) (respondent : Respondent ε D n) :
    Vector Label n → (members queue : List (Fin n)) → List (Fin n × Fin n) →
    Except ε (Vector Label n × List (Fin n)) × List (Fin n × Fin n) → Prop where
  | finish (labels : Vector Label n) (members : List (Fin n)) (calls : List (Fin n × Fin n)) :
      Grows density respondent labels members [] calls (.ok (labels, members), calls)
  | pass {labels : Vector Label n} {members queue : List (Fin n)} {point : Fin n}
      {calls : List (Fin n × Fin n)}
      {outcome : Except ε (Vector Label n × List (Fin n)) × List (Fin n × Fin n)}
      (inside : getElem labels point point.isLt = .clustered)
      (onwards : Grows density respondent labels members queue calls outcome) :
      Grows density respondent labels members (point :: queue) calls outcome
  | join {labels : Vector Label n} {members queue : List (Fin n)} {point : Fin n}
      {calls : List (Fin n × Fin n)}
      {outcome : Except ε (Vector Label n × List (Fin n)) × List (Fin n × Fin n)}
      (noise : getElem labels point point.isLt = .noise)
      (onwards : Grows density respondent (labels.set point .clustered point.isLt)
        (members ++ [point]) queue calls outcome) :
      Grows density respondent labels members (point :: queue) calls outcome
  | explore {labels : Vector Label n} {members queue reached : List (Fin n)} {point : Fin n}
      {calls : List (Fin n × Fin n)}
      {outcome : Except ε (Vector Label n × List (Fin n)) × List (Fin n × Fin n)}
      (waiting : getElem labels point point.isLt = .unvisited)
      (answered : ((density.region respondent.ask point).run.run calls).1 = .ok reached)
      (onwards : Grows density respondent (labels.set point .clustered point.isLt)
        (members ++ [point])
        (if density.isCore reached then
          queue ++ reached.filter fun other =>
            getElem (labels.set point .clustered point.isLt) other other.isLt != .clustered
        else queue)
        ((density.region respondent.ask point).run.run calls).2 outcome) :
      Grows density respondent labels members (point :: queue) calls outcome
  | fail {labels : Vector Label n} {members queue : List (Fin n)} {point : Fin n}
      {calls : List (Fin n × Fin n)} {cause : ε}
      (waiting : getElem labels point point.isLt = .unvisited)
      (failed : ((density.region respondent.ask point).run.run calls).1 = .error cause) :
      Grows density respondent labels members (point :: queue) calls
        (.error cause, ((density.region respondent.ask point).run.run calls).2)

/-- Enough steps are as good as any number: each takes a point off the queue, and only points that
were not visited put points on it. -/
theorem grows_grow {labels : Vector Label n} {members queue : List (Fin n)}
    {calls : List (Fin n × Fin n)} {steps : Nat}
    (enough : queue.length + n * (unvisited labels).card ≤ steps) :
    Grows density respondent labels members queue calls
      ((density.grow respondent.ask steps labels members queue).run.run calls) := by
  induction steps generalizing labels members queue calls with
  | zero =>
    obtain rfl : queue = [] := List.length_eq_zero_iff.mp (by omega)
    exact .finish labels members calls
  | succ steps ih =>
    cases queue with
    | nil => exact .finish labels members calls
    | cons point queue =>
      rw [List.length_cons] at enough
      rw [grow]
      split
      · rename_i inside
        exact .pass inside (ih (by omega))
      · rename_i noise
        have fewer :=
          Nat.mul_le_mul_left n (Finset.card_le_card (unvisited_set_subset labels point))
        exact .join noise (ih (by omega))
      · rename_i waiting
        dsimp only
        rw [run_bind]
        split
        · rename_i reached answered
          refine .explore waiting answered (ih ?_)
          have fewer := Nat.mul_le_mul_left n (card_unvisited_set waiting)
          rw [Nat.mul_succ] at fewer
          have few := length_region_le answered
          split
          · rw [List.length_append]
            have kept := List.length_filter_le
              (fun other => (labels.set point .clustered)[other] != .clustered) reached
            omega
          · omega
        · rename_i cause failed
          exact .fail waiting failed

/-- All points can be put in an order that begins with given ones. -/
theorem exists_order {centers : List (Fin n)} (distinct : centers.Nodup) :
    ∃ others, (centers ++ others).Perm (List.finRange n) := by
  refine ⟨(List.finRange n).filter (· ∉ centers), ?_⟩
  rw [List.perm_ext_iff_of_nodup _ (List.nodup_finRange n)]
  · intro point
    by_cases member : point ∈ centers <;> simp [member]
  · refine List.nodup_append.mpr ⟨distinct, (List.nodup_finRange n).filter _, ?_⟩
    rintro center member _ other rfl
    simp [member] at other

/-- The questions are those of the rows of all points, in some order of the points, until one
fails. -/
theorem asks_clusters (density : Density D) (respondent : Respondent ε D n) :
    ∃ centers : List (Fin n), centers.Perm (List.finRange n) ∧
      Asks respondent [] (centers.flatMap row)
        ((density.clusters respondent.ask).run.run []) := by
  obtain ⟨centers, distinct, _, asks, complete⟩ :=
    explores_sweep density respondent (Vector.replicate n .unvisited) (List.finRange n)
      (fun point _ => List.mem_finRange point) []
  change Asks respondent [] _ ((density.clusters respondent.ask).run.run []) at asks
  cases result : ((density.clusters respondent.ask).run.run []).1 with
  | ok clusters =>
    refine ⟨centers, ?_, asks⟩
    rw [List.perm_ext_iff_of_nodup distinct (List.nodup_finRange n)]
    intro point
    refine iff_of_true ?_ (List.mem_finRange point)
    by_contra missing
    have left := (complete clusters result point).mpr ⟨mem_unvisited.mpr (by simp), missing⟩
    exact absurd left (Finset.notMem_empty point)
  | error cause =>
    obtain ⟨others, order⟩ := exists_order distinct
    refine ⟨centers ++ others, order, ?_⟩
    rw [List.flatMap_append]
    exact asks.of_error result _

/-- No growth is cut short. The distance of each point from each other one is asked once, around one
centre after the other. The first failure ends the run, and without one it asks for all. -/
theorem asks_once (density : Density D) (respondent : Respondent ε D n) :
    let run := (density.clusters respondent.ask).run.run []
    (∀ (labels : Vector Label n) (seed : Fin n) (queue : List (Fin n))
        (calls : List (Fin n × Fin n)),
      getElem labels seed seed.isLt = .unvisited → queue.length ≤ n →
      Grows density respondent (labels.set seed .clustered seed.isLt) [seed] queue calls
        ((density.grow respondent.ask (growthSteps n) (labels.set seed .clustered seed.isLt) [seed]
          queue).run.run calls)) ∧
    (∃ centers : List (Fin n), centers.Perm (List.finRange n) ∧ run.2 <+: centers.flatMap row) ∧
    run.2.Nodup ∧ (∀ center point, (center, point) ∈ run.2 → center ≠ point) ∧
    (∀ clusters, run.1 = .ok clusters →
      run.2.length = n * (n - 1) ∧ (∀ center point, center ≠ point → (center, point) ∈ run.2) ∧
      respondent.Answers [] run.2) ∧
    (∀ cause, run.1 = .error cause → ∃ before center point,
      run.2 = before ++ [(center, point)] ∧ respondent.Answers [] before ∧
      respondent before center point = .error cause) ∧
    ∀ distance : Fin n → Fin n → Except ε D, (∀ calls, respondent calls = distance) →
      ((∃ cause, run.1 = .error cause) ↔
        ∃ center point cause, center ≠ point ∧ distance center point = .error cause) := by
  intro run
  obtain ⟨centers, order, asks⟩ := asks_clusters density respondent
  have distinct := nodup_rows (order.nodup_iff.mpr (List.nodup_finRange n))
  have mem_iff {center point : Fin n} : (center, point) ∈ centers.flatMap row ↔ center ≠ point := by
    simp only [List.mem_flatMap, mem_row]
    refine ⟨fun ⟨_, _, same, different⟩ => ?_, fun different => ?_⟩
    · exact same ▸ Ne.symm different
    · exact ⟨center, order.mem_iff.mpr (List.mem_finRange center), rfl, Ne.symm different⟩
  refine ⟨fun labels seed queue calls waiting queued =>
    grows_grow (le_growthSteps queued waiting), ?_⟩
  change Asks respondent [] _ run at asks
  clear_value run
  rcases asks.cases with ⟨⟨clusters, rfl⟩, answers⟩ |
    ⟨cause, before, center, point, after, split, rfl, answers, failed⟩
  · refine ⟨⟨centers, order, List.prefix_rfl⟩, distinct, fun center point => mem_iff.mp,
      fun _ _ => ⟨length_rows order, fun center point => mem_iff.mpr, answers⟩,
      fun _ absurd => (nomatch absurd), ?_⟩
    rintro distance pure
    refine ⟨fun ⟨_, absurd⟩ => (nomatch absurd), fun ⟨center, point, cause, different, fails⟩ => ?_⟩
    obtain ⟨before, after, split⟩ := List.append_of_mem (mem_iff.mpr different)
    obtain ⟨answer, given⟩ := answers before center point after split
    rw [pure, fails] at given
    contradiction
  · have leads : before ++ [(center, point)] <+: centers.flatMap row :=
      ⟨after, by rw [split, List.append_assoc]; rfl⟩
    have asked {other middle : Fin n} (member : (other, middle) ∈ before ++ [(center, point)]) :
        other ≠ middle := mem_iff.mp (leads.subset member)
    refine ⟨⟨centers, order, leads⟩, distinct.sublist leads.sublist, fun _ _ => asked,
      fun _ absurd => (nomatch absurd), ?_, fun distance pure => iff_of_true ⟨cause, rfl⟩ ?_⟩
    · rintro _ ⟨rfl⟩
      exact ⟨before, center, point, rfl, answers, failed⟩
    · exact ⟨center, point, cause, asked (by simp), by rwa [pure] at failed⟩

end FaultCorrelation.Density
