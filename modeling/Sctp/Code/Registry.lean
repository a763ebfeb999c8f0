import Sctp.Code.Table

/-! The registries of the protocol: chunk types, parameter types, causes of errors, and the types of
payload that an Ethernet frame announces. -/
namespace Sctp

def chunkTypes : CodeTable where
  title := "ChunkType"
  bound := 256
  entries :=
    [(0, "data"), (1, "init"), (2, "init-ack"), (3, "sack"), (4, "heartbeat"), (5, "heartbeat-ack"),
      (6, "abort"), (7, "shutdown"), (8, "shutdown-ack"), (9, "error"), (10, "cookie-echo"),
      (11, "cookie-ack"), (12, "ecne"), (13, "cwr"), (14, "shutdown-complete"), (15, "auth")]

def paramTypes : CodeTable where
  title := "ParamType"
  bound := 65536
  entries :=
    [(1, "heartbeat-info"), (5, "ipv4-address"), (6, "ipv6-address"), (7, "state-cookie"),
      (8, "unrecognized-parameter"), (9, "cookie-preservative"), (11, "host-name-address"),
      (12, "supported-address-types"), (0x8000, "ecn-capable"), (0xC000, "forward-tsn-supported")]

def errorCauses : CodeTable where
  title := "ErrorCause"
  bound := 65536
  entries :=
    [(1, "invalid-stream-identifier"), (2, "missing-mandatory-parameter"), (3, "stale-cookie"),
      (4, "out-of-resource"), (5, "unresolvable-address"), (6, "unrecognized-chunk-type"),
      (7, "invalid-mandatory-parameter"), (8, "unrecognized-parameters"), (9, "no-user-data"),
      (10, "cookie-while-shutting-down"), (11, "restart-with-new-addresses"),
      (12, "user-initiated-abort"), (13, "protocol-violation")]

def etherTypes : CodeTable where
  title := "EtherType"
  bound := 65536
  entries :=
    [(0x0800, "ipv4"), (0x0806, "arp"), (0x8100, "vlan-8021q"), (0x86DD, "ipv6"),
      (0x88A8, "vlan-8021ad"), (0x9100, "vlan-qinq"), (0x8847, "mpls-uc"), (0x8848, "mpls-mc"),
      (0x8863, "pppoe-disc"), (0x8864, "pppoe-sess")]

def registries : List CodeTable := [chunkTypes, paramTypes, errorCauses, etherTypes]

end Sctp
