import Notices.Record.Field

/-!
# The configuration

The configuration is read from the texts of an environment.  Every entry has a
default, and entries that are not known do not count.
-/

namespace Notices

/-- The configuration of the service. -/
structure Config where
  environment : String := "development"
  debug : Bool := true
  databaseUrl : String := "mongodb://localhost:27017"
  databaseName : String := "park_pickups"
  smtpHost : Option String := none
  smtpPort : Int := 587
  smtpUser : Option String := none
  smtpPassword : Option String := none
  smsAccount : Option String := none
  smsToken : Option String := none
  smsNumber : Option String := none
  smsBaseUrl : String := "https://api.twilio.com"
  timeout : Binary64 := .ofInt 15
  adminKey : Option String := none
  deriving DecidableEq, Repr, Inhabited

namespace Config

/-- Reads the configuration from an environment. -/
def ofEnvironment (env : Fields) : Checked Config :=
  Config.mk <$> Record.withDefault env "APP_ENV" "development" Record.text
    <*> Record.withDefault env "DEBUG" true Record.flag
    <*> Record.withDefault env "MONGO_URL" "mongodb://localhost:27017"
      Record.text
    <*> Record.withDefault env "DB_NAME" "park_pickups" Record.text
    <*> Record.optionalText env "SMTP_HOST"
    <*> Record.withDefault env "SMTP_PORT" 587 Record.integerText
    <*> Record.optionalText env "SMTP_USER"
    <*> Record.optionalText env "SMTP_PASS"
    <*> Record.optionalText env "TWILIO_ACCOUNT_SID"
    <*> Record.optionalText env "TWILIO_AUTH_TOKEN"
    <*> Record.optionalText env "TWILIO_PHONE_NUMBER"
    <*> Record.withDefault env "TWILIO_API_BASE_URL" "https://api.twilio.com"
      Record.text
    <*> Record.withDefault env "PROVIDER_TIMEOUT_SECONDS" (.ofInt 15)
      Record.numberText
    <*> Record.optionalText env "ADMIN_API_KEY"

/-- The configuration as a document. -/
def toValue (c : Config) : Value := .object [
  ("APP_ENV", .string c.environment),
  ("DEBUG", .bool c.debug),
  ("MONGO_URL", .string c.databaseUrl),
  ("DB_NAME", .string c.databaseName),
  ("SMTP_HOST", Record.ofOption c.smtpHost),
  ("SMTP_PORT", .int c.smtpPort),
  ("SMTP_USER", Record.ofOption c.smtpUser),
  ("SMTP_PASS", Record.ofOption c.smtpPassword),
  ("TWILIO_ACCOUNT_SID", Record.ofOption c.smsAccount),
  ("TWILIO_AUTH_TOKEN", Record.ofOption c.smsToken),
  ("TWILIO_PHONE_NUMBER", Record.ofOption c.smsNumber),
  ("TWILIO_API_BASE_URL", .string c.smsBaseUrl),
  ("PROVIDER_TIMEOUT_SECONDS", .real c.timeout),
  ("ADMIN_API_KEY", Record.ofOption c.adminKey)]

end Config

end Notices
