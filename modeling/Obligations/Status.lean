/-! # Immigration status

The kinds of visa that rules are written for, and the stages that a subject passes through.
-/

namespace Obligations

/-- The kind of status that a subject holds. -/
inductive VisaType where
  | f1
  | j1
  | h1b
  | opt
  | stemOpt
  | other
deriving DecidableEq, Repr

namespace VisaType

def all : List VisaType := [.f1, .j1, .h1b, .opt, .stemOpt, .other]

def code : VisaType → String
  | .f1 => "F1"
  | .j1 => "J1"
  | .h1b => "H1B"
  | .opt => "OPT"
  | .stemOpt => "STEM_OPT"
  | .other => "Other"

/-- The symbolic name of a kind of status. -/
def symbol : VisaType → String
  | .other => "OTHER"
  | visa => visa.code

/-- The kind of status with a given code. -/
def ofCode? (code : String) : Option VisaType :=
  all.find? (·.code == code)

end VisaType

/-- The stage of a subject's stay. -/
inductive Phase where
  | preArrival
  | initialEntry
  | duringProgram
  | preGraduation
  | postGraduation
  | optApplication
  | optActive
  | stemApplication
  | stemActive
  | statusChange
  | departurePrep
  | general
deriving DecidableEq, Repr

namespace Phase

/-- All stages. -/
def all : List Phase :=
  [.preArrival, .initialEntry, .duringProgram, .preGraduation, .postGraduation, .optApplication,
   .optActive, .stemApplication, .stemActive, .statusChange, .departurePrep, .general]

def code : Phase → String
  | .preArrival => "pre_arrival"
  | .initialEntry => "initial_entry"
  | .duringProgram => "during_program"
  | .preGraduation => "pre_graduation"
  | .postGraduation => "post_graduation"
  | .optApplication => "opt_application"
  | .optActive => "opt_active"
  | .stemApplication => "stem_application"
  | .stemActive => "stem_active"
  | .statusChange => "status_change"
  | .departurePrep => "departure_prep"
  | .general => "general"

/-- The symbolic name of a stage. -/
def symbol : Phase → String
  | .preArrival => "PRE_ARRIVAL"
  | .initialEntry => "INITIAL_ENTRY"
  | .duringProgram => "DURING_PROGRAM"
  | .preGraduation => "PRE_GRADUATION"
  | .postGraduation => "POST_GRADUATION"
  | .optApplication => "OPT_APPLICATION"
  | .optActive => "OPT_ACTIVE"
  | .stemApplication => "STEM_APPLICATION"
  | .stemActive => "STEM_ACTIVE"
  | .statusChange => "STATUS_CHANGE"
  | .departurePrep => "DEPARTURE_PREP"
  | .general => "GENERAL"

/-- The name of a stage as it is shown to subjects. -/
def title : Phase → String
  | .preArrival => "Pre-Arrival"
  | .initialEntry => "Initial Entry"
  | .duringProgram => "During Program"
  | .preGraduation => "Pre-Graduation"
  | .postGraduation => "Post-Graduation"
  | .optApplication => "OPT Application"
  | .optActive => "OPT Active"
  | .stemApplication => "STEM OPT Application"
  | .stemActive => "STEM OPT Active"
  | .statusChange => "Status Change"
  | .departurePrep => "Departure Preparation"
  | .general => "General"

/-- The stage with a given code. -/
def ofCode? (code : String) : Option Phase :=
  all.find? (·.code == code)

end Phase

end Obligations
