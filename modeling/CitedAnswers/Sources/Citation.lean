import CitedAnswers.Sources.Marker
import CitedAnswers.Sources.Passage

/-! # Citations

A citation points at the place in a video where a passage starts.  Each video is cited once, at the
earliest start among its passages and with the title of the first passage that starts there; videos
stand in the order in which they were first seen (`collect`).  A video is known by its link.

Citations are written as a list of links below an answer (`footer`).
-/

namespace CitedAnswers.Sources

structure Citation where
  link : String
  title : String
  seconds : Nat
  deriving DecidableEq, Repr

namespace Citation

/-! ## Collecting -/

/-- The citation of a passage; one without a link cannot be cited. -/
def ofPassage? (p : Passage) : Option Citation :=
  p.link.map fun link => ⟨link, p.title, startSeconds p.text⟩

/-- The earlier of two citations of a video; of two with the same start, the first one. -/
def earlier (old new : Citation) : Citation :=
  if new.seconds < old.seconds then new else old

/-- Adds a citation: to the end if its video is new, else it competes with the one that is there. -/
def add (new : Citation) : List Citation → List Citation
  | [] => [new]
  | old :: rest =>
    if old.link = new.link then earlier old new :: rest else old :: add new rest

def addAll (citations : List Citation) (more : List Citation) : List Citation :=
  more.foldl (fun cs c => add c cs) citations

def collect (passages : List Passage) : List Citation :=
  addAll [] (passages.filterMap ofPassage?)

/-! ## Writing -/

def markdown (c : Citation) : String :=
  "[" ++ c.title ++ "](" ++ c.link ++ "&t=" ++ toString c.seconds ++ ")"

def links (citations : List Citation) : List String :=
  citations.map markdown

/-- The list of sources that goes below an answer; nothing when there are none. -/
def footer (citations : List Citation) : String :=
  if citations.isEmpty then ""
  else
    "\n\n**Sources:**\n" ++ "\n".intercalate ((links citations).map fun link => "- " ++ link)

end Citation

end CitedAnswers.Sources
