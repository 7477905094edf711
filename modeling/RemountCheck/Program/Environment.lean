import RemountCheck.Platform.Failure

/-!
# Settings from the environment

A run is set up by six variables. One of them chooses between two environments,
each with a profile of usual values; the others replace single values of the
profile or name the credentials, for which there is no usual value.

* `RemountCheck.Environment`, `RemountCheck.Environment.profile`;
* `RemountCheck.Variables` – the variables as they are found, set or not;
* `RemountCheck.Settings.ofVariables` – the settings that follow from them, where
  an empty value counts as none;
* `RemountCheck.Settings.connection` – what a client needs to reach the platform,
  or the first credential that is missing.
-/

namespace RemountCheck

/-- The environment of the platform that a run is meant for. -/
inductive Environment where
  | prod
  | dev
  deriving DecidableEq, Repr

/-- The usual values of an environment. -/
structure Profile where
  regions : List String
  defaultRegion : String
  image : String
  apiBaseUrl : String
  runBaseUrl : String
  deriving DecidableEq, Repr

namespace Environment

/-- Only `dev` selects the development environment. -/
def ofName : Option String → Environment
  | some "dev" => .dev
  | _ => .prod

/-- The name of an environment. -/
def name : Environment → String
  | .prod => "prod"
  | .dev => "dev"

/-- **The usual values** of an environment. -/
def profile : Environment → Profile
  | .prod =>
    { regions := ["us-west-2"]
      defaultRegion := "us-west-2"
      image := "blaxel/prod-base:latest"
      apiBaseUrl := "https://api.blaxel.ai/v0"
      runBaseUrl := "https://run.blaxel.ai" }
  | .dev =>
    { regions := ["eu-west-1"]
      defaultRegion := "eu-west-1"
      image := "blaxel/dev-base:latest"
      apiBaseUrl := "https://api.blaxel.dev/v0"
      runBaseUrl := "https://run.blaxel.dev" }

/-- An environment's own region is one of those it lists. -/
theorem defaultRegion_mem_regions (e : Environment) :
    e.profile.defaultRegion ∈ e.profile.regions := by
  cases e <;> simp [profile]

end Environment

/-- The variables that set up a run, as they are found. -/
structure Variables where
  environment : Option String := none
  apiBaseUrl : Option String := none
  runBaseUrl : Option String := none
  workspace : Option String := none
  apiKey : Option String := none
  region : Option String := none
  deriving DecidableEq, Repr

/-- What a client needs to reach the platform. -/
structure Connection where
  apiBaseUrl : String
  runBaseUrl : String
  workspace : String
  apiKey : String
  deriving DecidableEq, Repr

/-- **The settings of a run.** -/
structure Settings where
  environment : Environment
  apiBaseUrl : String
  runBaseUrl : String
  workspace : Option String
  apiKey : Option String
  region : String
  deriving DecidableEq, Repr

/-- An empty value counts as none. -/
def nonEmpty? (value : Option String) : Option String := value.filter (· ≠ "")

namespace Settings

/-- **The settings that follow from the variables.** -/
def ofVariables (v : Variables) : Settings :=
  let environment := Environment.ofName v.environment
  let profile := environment.profile
  { environment
    apiBaseUrl := (nonEmpty? v.apiBaseUrl).getD profile.apiBaseUrl
    runBaseUrl := (nonEmpty? v.runBaseUrl).getD profile.runBaseUrl
    workspace := nonEmpty? v.workspace
    apiKey := nonEmpty? v.apiKey
    region := (nonEmpty? v.region).getD profile.defaultRegion }

/-- The image that sandboxes are made from. -/
def image (s : Settings) : String := s.environment.profile.image

/-- **What a client needs**, or a failure that names the first missing credential. -/
def connection (s : Settings) : Except Failure Connection :=
  match s.workspace, s.apiKey with
  | none, _ => .error (.config "BL_WORKSPACE is not set")
  | some _, none => .error (.config "BL_API_KEY is not set")
  | some workspace, some apiKey =>
    .ok { apiBaseUrl := s.apiBaseUrl, runBaseUrl := s.runBaseUrl, workspace, apiKey }

end Settings

end RemountCheck
