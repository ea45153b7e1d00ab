import Transceiver.Config.Basic
import Transceiver.Number.Shortest

/-!
The summary of a configuration that is logged before the pipeline is built: a heading and one
labelled line for each setting. The device arguments stand in it as they are, line feeds included.
-/

namespace Transceiver.Config

def enabled (flag : Bool) : String :=
  if flag then "Enabled" else "Disabled"

def entries (config : Config) : List (String × String) :=
  [("Log Level............... ", config.logLevel.name),
    ("Device args............. ", config.deviceArgs),
    ("TRX Base Port........... ", toString config.port.toNat),
    ("TRX Address............. ", config.localAddress.text),
    ("GSM Core Address........ ", config.remoteAddress.text),
    ("Channels................ ", toString config.channels),
    ("Tx Samples-per-Symbol... ", config.txRate.name),
    ("Rx Samples-per-Symbol... ", config.rxRate.name),
    ("EDGE support............ ", enabled config.edge),
    ("Reference............... ", config.reference.name),
    ("C0 Filler Table......... ", config.filler.name),
    ("Multi-Carrier........... ", enabled config.multiArfcn),
    ("Tuning offset........... ", config.offset.text),
    ("RSSI to dBm offset...... ", config.rssiOffset.text),
    ("Swap channels........... ", enabled config.swapChannels)]

def summary (config : Config) : String :=
  config.entries.foldl (fun text (label, value) => text ++ "\n   " ++ label ++ value)
    "Config Settings"

end Transceiver.Config
