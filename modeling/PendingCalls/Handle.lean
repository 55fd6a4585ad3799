-- Handles correlate one native call with the callback that completes it. A
-- counter issues them in order, strictly positive, and starts over at one
-- after the largest 32-bit value.

namespace PendingCalls

structure Handle where
  raw : Int32
deriving DecidableEq, Inhabited

namespace Handle

def text (h : Handle) : String := "#" ++ toString h.raw.toInt

def Positive (h : Handle) : Prop := 0 < h.raw.toInt

def le (a b : Handle) : Bool := decide (a.raw ≤ b.raw)

-- Sorted by number, each handle once.
def sorted (handles : List Handle) : List Handle :=
  dropRepeats (handles.mergeSort le)
where
  dropRepeats : List Handle → List Handle
    | [] => []
    | [h] => [h]
    | a :: b :: rest => if a = b then dropRepeats (b :: rest) else a :: dropRepeats (b :: rest)

end Handle

-- The next number to try. Between two draws it may stand at the least 32-bit
-- value, just after the largest one was issued.
structure HandleCounter where
  next : Int32
deriving DecidableEq, Inhabited

namespace HandleCounter

def start (first : Int32) : HandleCounter := ⟨if first < 1 then 1 else first⟩

-- The number that stood there, and the counter one further, past the largest
-- 32-bit number at the least.
def fetchNext (c : HandleCounter) : Int32 × HandleCounter := (c.next, ⟨c.next + 1⟩)

-- Puts the counter somewhere else, if it still stands where it is expected.
def exchange (c : HandleCounter) (expected new : Int32) : HandleCounter :=
  if c.next = expected then ⟨new⟩ else c

-- One try: the counter moves on by one, and a number that is not positive is
-- not issued but sends the counter back to one.
def attempt (c : HandleCounter) : Option Handle × HandleCounter :=
  let (raw, d) := c.fetchNext
  if 0 < raw then (some ⟨raw⟩, d) else (none, d.exchange (raw + 1) 1)

theorem attempt_positive {c : HandleCounter} (positive : 0 < c.next) :
    c.attempt = (some ⟨c.next⟩, ⟨c.next + 1⟩) := if_pos positive

theorem attempt_reserved {c : HandleCounter} (reserved : ¬ 0 < c.next) : c.attempt = (none, ⟨1⟩) := by
  have back : (⟨c.next + 1⟩ : HandleCounter).exchange (c.next + 1) 1 = ⟨1⟩ := if_pos rfl
  exact (if_neg reserved).trans (congrArg (Prod.mk none) back)

theorem attempt_none {c : HandleCounter} (h : attempt c = (none,d)) : d = ⟨1⟩ ∧ ¬ 0 < c.next := by
  by_cases positive : 0 < c.next
  · cases (attempt_positive positive).symm.trans h
  · cases (attempt_reserved positive).symm.trans h
    exact ⟨rfl, positive⟩

-- Tries until a number is positive; the second try always succeeds.
def issue (c : HandleCounter) : Handle × HandleCounter :=
  match _tried : attempt c with
  | (some h, d) => (h, d)
  | (none, d) => issue d
termination_by if 0 < c.next then 0 else 1
decreasing_by
  obtain ⟨rfl,low⟩ := attempt_none _tried
  simp [low]

def issueMany : Nat → HandleCounter → List Handle × HandleCounter
  | 0, c => ([], c)
  | n + 1, c =>
      let (h, d) := c.issue
      let (hs, e) := issueMany n d
      (h :: hs, e)

end HandleCounter

end PendingCalls
