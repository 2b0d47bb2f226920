import NgxNats.Model.Connection

/-!
# The configuration

`ngx_nats_core_init_conf`, which completes what the `nats` block of the configuration left open
and checks the length of the credentials.
-/
namespace NgxNats

/-- The settings of `ngx_nats_core_conf_t` besides its servers; `none` is a string whose data is
null, or `NGX_CONF_UNSET_MSEC`. -/
structure CoreConf where
  reconnectInterval : Option Nat := none
  pingInterval : Option Nat := none
  user : Option (List UInt8) := none
  password : Option (List UInt8) := none
  deriving DecidableEq, Repr

/-- `NGX_NATS_MAS_USER_PASS_LEN` -/
def maxUserPassLen : Nat := 512

/-- `ngx_nats_conf_init_str` -/
def confInitStr (s : Option (List UInt8)) (value : String) : List UInt8 :=
  match s with
  | some data => data
  | none => ascii value

/-- `ngx_nats_core_init_conf`; `none` is `NGX_CONF_ERROR`. -/
def coreInitConf (conf : CoreConf) : Option CoreConf :=
  let user := confInitStr conf.user "continuum.router"
  let password := confInitStr conf.password ""
  if maxUserPassLen < user.length + password.length then none
  else some {
    reconnectInterval := some (conf.reconnectInterval.getD 1000)
    pingInterval := some (conf.pingInterval.getD 20000)
    user := some user
    password := some password }

/-- The module runs with a configuration that was accepted. -/
def Env.Configured (env : Env) (conf : CoreConf) : Prop :=
  coreInitConf conf = some {
    reconnectInterval := some env.reconnectInterval
    pingInterval := some env.pingInterval
    user := some env.user
    password := some env.password }

end NgxNats
